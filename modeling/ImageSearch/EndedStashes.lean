import ImageSearch.SharedStashes
import Mathlib.Algebra.Order.BigOperators.Group.Finset

namespace ImageSearch.EndedStashes
open Payload Transitions Threads SharedStashes

inductive Callback where
  | claimed | expired
  deriving DecidableEq, Repr

structure Stash where
  entry : StashEntry
  cancelled : Bool := false
  calls : List Callback := []
  deriving DecidableEq, Repr

-- A manifest request, a download, cancel_stash and the thread of the timer, cut at the locks
-- and at the read of the file. `calling` is before the callback, which first asks for the
-- peer's name under two locks.
inductive Actor where
  | manifest
  | download (fileIndex : Int)
  | reading (file : FileEntry)
  | calling (result : Retrieved)
  | answered (result : Retrieved)
  | cancelling
  | returned (done : Bool)
  | waiting
  | firing
  | stopped
  deriving DecidableEq, Repr

def Actor.isFinished : Actor → Bool
  | .answered _ | .returned _ | .stopped => true
  | _ => false

structure Outside where
  now : Nat := 0
  read : Option Bytes := none

def checkFile (entry : StashEntry) (fileIndex : Int) : FileStep :=
  if entry.expired then .refused 410
  else if entry.files = [] || fileIndex < 0 then .refused 400
  else
    match entry.files[fileIndex.toNat]? with
    | none => .refused 400
    | some file => file.content.elim (.reading file) fun content => .inline content file

def invalidateStash (w : Stash) : Stash :=
  {w with entry:=w.entry.invalidate,cancelled:=true,calls:=w.calls ++ [.expired]}

def serveFile (w : Stash) (bytes : Bytes) (file : FileEntry) : Stash × Actor :=
  let result := Retrieved.file bytes file.contentType (file.filename.getD "")
  if w.entry.claimed then (w,.answered result) else ({w with entry:=w.entry.claim,cancelled:=true},.calling result)

def stepActor (w : Stash) (actor : Actor) (input : Outside) : Option (Stash × Actor) :=
  match actor with
  | .manifest => some (
      if w.entry.expired || w.entry.claimed then (w,.answered (.refused 410))
      else if w.entry.expiresAt < input.now then (invalidateStash w,.answered (.refused 410))
      else if w.entry.files = [] then (w,.answered (.refused 500))
      else (w,.answered (.manifest (w.entry.files.zipIdx.map fun file => manifestItem file.1 file.2))))
  | .download fileIndex => some (
      match checkFile w.entry fileIndex with
      | .refused status => (w,.answered (.refused status))
      | .inline content file => serveFile w content.toUTF8.data.toList file
      | .reading file => (w,.reading file))
  | .reading file => some (
      match input.read with
      | some bytes => serveFile w bytes file
      | none => (invalidateStash w,.answered (.refused 404)))
  | .calling result => some ({w with calls:=w.calls ++ [.claimed]},.answered result)
  | .cancelling => some (
      if w.entry.claimed || w.entry.expired then (w,.returned false) else (invalidateStash w,.returned true))
  -- Timer.run: the function is called unless the timer was cancelled by the time it wakes up.
  | .waiting => some (w,if w.cancelled then .stopped else .firing)
  | .firing => some (
      if w.entry.claimed then (w,.stopped)
      else ({w with entry:={w.entry with expired:=true},calls:=w.calls ++ [.expired]},.stopped))
  | .answered _ | .returned _ | .stopped => none

def endPool (Index : Type*) [DecidableEq Index] : System (Pool Index Stash Actor) (Move Index Outside Empty) :=
  pool stepActor fun _ _ => none

-- A file is read while the stash has not expired, a read fails while it stands, and the timer
-- that has woken up does not find it expired by another.
def endsInTurn (w : Stash) (actor : Actor) (input : Outside) : Bool :=
  match actor with
  | .reading _ => !w.entry.expired && (input.read.isSome || !w.entry.claimed)
  | .firing => !w.entry.expired || w.entry.claimed
  | _ => true

def endsOnce : Condition Stash Actor Outside Empty where
  own w actor input := endsInTurn w actor input = true

def owes : Actor → Nat
  | .calling _ => 1
  | _ => 0

inductive Effect (w : Stash) (actor : Actor) : Stash → Actor → Prop
  | leaves {actor' : Actor} (owed : owes actor' = owes actor) (final : actor' = .stopped → w.cancelled = true ∨ w.entry.claimed = true) :
      Effect w actor w actor'
  | expires {w' : Stash} {actor' : Actor} (unclaimed : w.entry.claimed = false) (unexpired : w.entry.expired = false) (entry : w'.entry = w.entry.invalidate)
      (calls : w'.calls = w.calls ++ [.expired]) (owed : owes actor' = owes actor) : Effect w actor w' actor'
  | claims {actor' : Actor} (unclaimed : w.entry.claimed = false) (unexpired : w.entry.expired = false) (owed : owes actor' = owes actor + 1) :
      Effect w actor {w with entry:=w.entry.claim,cancelled:=true} actor'
  | calls {actor' : Actor} (owed : owes actor' + 1 = owes actor) : Effect w actor {w with calls:=w.calls ++ [.claimed]} actor'

variable {w w' : Stash} {actor actor' : Actor} {input : Outside}

theorem serve_effect (actor : Actor) (bytes : Bytes) (file : FileEntry) (none : owes actor = 0) (unexpired : w.entry.expired = false) :
    Effect w actor (serveFile w bytes file).1 (serveFile w bytes file).2 := by
  unfold serveFile
  cases claimed : w.entry.claimed with
  | true => exact .leaves (by rw [none]; rfl) fun stopped => by cases stopped
  | false => exact .claims claimed unexpired (by rw [none]; rfl)

theorem step_effect (admitted : endsInTurn w actor input = true) (taken : stepActor w actor input = some (w',actor')) :
    Effect w actor w' actor' := by
  cases actor with
  | manifest =>
      simp only [stepActor,Option.some.injEq] at taken
      split at taken
      · cases taken
        exact .leaves rfl fun stopped => by cases stopped
      · rename_i stands
        simp only [Bool.or_eq_true,not_or,Bool.not_eq_true] at stands
        split at taken
        · cases taken
          exact .expires stands.2 stands.1 rfl rfl rfl
        · split at taken <;> cases taken <;> exact .leaves rfl fun stopped => by cases stopped
  | download fileIndex =>
      simp only [stepActor,Option.some.injEq] at taken
      split at taken
      · cases taken
        exact .leaves rfl fun stopped => by cases stopped
      · rename_i content file checked
        have unexpired : w.entry.expired = false := by
          by_contra expired
          rw [Bool.not_eq_false] at expired
          rw [checkFile,if_pos expired] at checked
          cases checked
        have effect := serve_effect (.download fileIndex) content.toUTF8.data.toList file rfl unexpired
        rwa [taken] at effect
      · cases taken
        exact .leaves rfl fun stopped => by cases stopped
  | reading file =>
      simp only [endsInTurn,Bool.and_eq_true,Bool.or_eq_true,Bool.not_eq_true'] at admitted
      simp only [stepActor,Option.some.injEq] at taken
      cases read : input.read with
      | some bytes =>
          rw [read] at taken
          dsimp only at taken
          have effect := serve_effect (.reading file) bytes file rfl admitted.1
          rwa [taken] at effect
      | none =>
          rw [read] at admitted taken
          cases taken
          exact .expires (admitted.2.resolve_left (by decide)) admitted.1 rfl rfl rfl
  | calling result =>
      cases taken
      exact .calls rfl
  | cancelling =>
      simp only [stepActor,Option.some.injEq] at taken
      split at taken
      · cases taken
        exact .leaves rfl fun stopped => by cases stopped
      · rename_i stands
        simp only [Bool.or_eq_true,not_or,Bool.not_eq_true] at stands
        cases taken
        exact .expires stands.1 stands.2 rfl rfl rfl
  | waiting =>
      cases taken
      cases cancelled : w.cancelled with
      | true => exact .leaves rfl fun _ => .inl cancelled
      | false => exact .leaves rfl fun stopped => by cases stopped
  | firing =>
      simp only [endsInTurn,Bool.or_eq_true,Bool.not_eq_true'] at admitted
      simp only [stepActor,Option.some.injEq] at taken
      split at taken
      · rename_i claimed
        cases taken
        exact .leaves rfl fun _ => .inr claimed
      · rename_i unclaimed
        rw [Bool.not_eq_true] at unclaimed
        have unexpired := admitted.resolve_right (by rw [unclaimed]; decide)
        cases taken
        refine .expires unclaimed unexpired ?_ rfl rfl
        unfold StashEntry.invalidate
        rw [← unclaimed]
  | answered result => cases taken
  | returned done => cases taken
  | stopped => cases taken

section Runs
variable {Index : Type*} [DecidableEq Index] [Fintype Index] {s next : Pool Index Stash Actor} {move : Move Index Outside Empty}

structure Settles (s : Pool Index Stash Actor) : Prop where
  once : s.world.entry.claimed = true → s.world.entry.expired = false
  expired : s.world.calls.count .expired = if s.world.entry.expired then 1 else 0
  claimed : ∑ i, owes (s.threads i) + s.world.calls.count .claimed = if s.world.entry.claimed then 1 else 0
  armed : s.world.cancelled = true → s.world.entry.claimed = true ∨ s.world.entry.expired = true
  stopped : ∀ i, s.threads i = .stopped → s.world.entry.claimed = true ∨ s.world.entry.expired = true

structure Later (w w' : Stash) : Prop where
  claimed : w.entry.claimed = true → w'.entry.claimed = true
  expired : w.entry.expired = true → w'.entry.expired = true

theorem effect_later (effect : Effect w actor w' actor') : Later w w' := by
  cases effect with
  | leaves _ _ => exact ⟨id,id⟩
  | expires unclaimed unexpired entry _ _ =>
      refine ⟨?_,fun _ => by rw [entry]; rfl⟩
      intro claimed
      rw [unclaimed] at claimed
      cases claimed
  | claims _ _ _ => exact ⟨fun _ => rfl,id⟩
  | calls _ => exact ⟨id,id⟩

theorem effect_settles {i : Index} (settles : Settles s) (effect : Effect s.world (s.threads i) w' actor') :
    Settles ⟨w',Function.update s.threads i actor'⟩ := by
  have later := effect_later effect
  have sum := sum_update owes s.threads i actor'
  have final : (w'.entry.claimed = true ∨ w'.entry.expired = true ∨ actor' ≠ .stopped) →
      ∀ j, Function.update s.threads i actor' j = .stopped → w'.entry.claimed = true ∨ w'.entry.expired = true := by
    intro mine j stopped
    by_cases same : j = i
    · subst j
      rw [Function.update_self] at stopped
      rcases mine with claimed | expired | going
      · exact .inl claimed
      · exact .inr expired
      · exact absurd stopped going
    · rw [Function.update_of_ne same] at stopped
      exact (settles.stopped j stopped).imp later.claimed later.expired
  have claimed := settles.claimed
  have expired := settles.expired
  cases effect with
  | leaves owed finish =>
      refine ⟨settles.once,expired,by dsimp only; omega,settles.armed,final ?_⟩
      by_cases stopped : actor' = .stopped
      · rcases finish stopped with cancelled | claimed
        · exact (settles.armed cancelled).imp id .inl
        · exact .inl claimed
      · exact .inr (.inr stopped)
  | expires unclaimed unexpired entry calls owed =>
      rw [unclaimed] at claimed
      rw [unexpired] at expired
      refine ⟨?_,?_,?_,fun _ => .inr (by rw [entry]; rfl),final (.inr (.inl (by rw [entry]; rfl)))⟩
      · dsimp only
        rw [entry]
        intro claimed
        cases claimed
      · dsimp only
        rw [entry,calls,List.count_append,expired]
        rfl
      · dsimp only
        rw [entry,calls,List.count_append]
        simp only [StashEntry.invalidate,List.count_singleton,Bool.false_eq_true,if_false,beq_iff_eq,reduceCtorEq] at *
        omega
  | claims unclaimed unexpired owed =>
      rw [unclaimed] at claimed
      refine ⟨fun _ => unexpired,expired,?_,fun _ => .inl rfl,final (.inl rfl)⟩
      simp only [StashEntry.claim,Bool.false_eq_true,if_false,if_true] at *
      omega
  | calls owed =>
      refine ⟨settles.once,?_,?_,settles.armed,final ?_⟩
      · dsimp only
        rw [List.count_append,expired]
        rfl
      · dsimp only
        rw [List.count_append]
        simp only [List.count_singleton,beq_self_eq_true,if_true]
        omega
      · left
        by_contra unclaimed
        rw [if_neg unclaimed] at claimed
        have one := Finset.single_le_sum (f := fun j => owes (s.threads j)) (fun _ _ => Nat.zero_le _) (Finset.mem_univ i)
        omega

theorem step_settles (settles : Settles s) (allowed : endsOnce.Admits s move) (taken : (endPool Index).step s move = some next) :
    Settles next ∧ Later s.world next.world := by
  cases move with
  | thread i input =>
      obtain ⟨w',actor',moved,rfl⟩ := thread_parts taken
      have effect := step_effect allowed.1 moved
      exact ⟨effect_settles settles effect,effect_later effect⟩
  | environment event => cases event

-- A stash is made before any of these begins; one of them is its timer.
structure Starts (s : Pool Index Stash Actor) : Prop where
  entry : s.world.entry.claimed = false ∧ s.world.entry.expired = false
  untouched : s.world.cancelled = false ∧ s.world.calls = []
  actors : ∀ i, s.threads i = .manifest ∨ (∃ fileIndex, s.threads i = .download fileIndex) ∨ s.threads i = .cancelling ∨ s.threads i = .waiting
  timer : ∃ i, s.threads i = .waiting

omit [DecidableEq Index] in
theorem starts_settles (starts : Starts s) : Settles s := by
  obtain ⟨unclaimed,unexpired⟩ := starts.entry
  obtain ⟨armed,silent⟩ := starts.untouched
  have begins : ∀ i, owes (s.threads i) = 0 ∧ s.threads i ≠ .stopped := by
    intro i
    rcases starts.actors i with here | ⟨_,here⟩ | here | here <;> rw [here] <;> exact ⟨rfl,by simp⟩
  refine ⟨fun _ => unexpired,?_,?_,?_,fun i stopped => absurd stopped (begins i).2⟩
  · rw [silent,unexpired]
    rfl
  · rw [silent,unclaimed,Finset.sum_congr rfl fun i _ => (begins i).1]
    simp
  · rw [armed]
    intro cancelled
    cases cancelled

theorem run_settles (settles : Settles s) (path : Reaches (endPool Index) endsOnce.Admits s next) :
    Settles next ∧ Later s.world next.world := by
  induction path with
  | refl => exact ⟨settles,⟨id,id⟩⟩
  | tail _ step ih =>
      obtain ⟨move,allowed,taken⟩ := step
      obtain ⟨settles',later⟩ := step_settles ih.1 allowed taken
      exact ⟨settles',⟨fun claimed => later.claimed (ih.2.claimed claimed),fun expired => later.expired (ih.2.expired expired)⟩⟩

omit [Fintype Index] in
theorem thread_kept {i : Index} (kept : Stash → Actor → Prop) {admitted : Pool Index Stash Actor → Move Index Outside Empty → Prop}
    (mine : ∀ w actor input w' actor', kept w actor → stepActor w actor input = some (w',actor') → kept w' actor')
    (others : ∀ w one actor input w' actor', kept w one → stepActor w actor input = some (w',actor') → kept w' one)
    (start : kept s.world (s.threads i)) (path : Reaches (endPool Index) admitted s next) : kept next.world (next.threads i) := by
  induction path with
  | refl => exact start
  | tail _ step ih =>
      obtain ⟨move,-,taken⟩ := step
      cases move with
      | thread j input =>
          obtain ⟨w',actor',moved,rfl⟩ := thread_parts taken
          dsimp only
          by_cases same : i = j
          · subst j
            rw [Function.update_self]
            exact mine _ _ _ _ _ ih moved
          · rw [Function.update_of_ne same]
            exact others _ _ _ _ _ _ ih moved
      | environment event => cases event

def Timing (_ : Stash) (actor : Actor) : Prop := actor = .waiting ∨ actor = .firing ∨ actor = .stopped

omit [Fintype Index] in
theorem timer_kept {i : Index} {admitted : Pool Index Stash Actor → Move Index Outside Empty → Prop} (start : s.threads i = .waiting)
    (path : Reaches (endPool Index) admitted s next) : Timing next.world (next.threads i) := by
  refine thread_kept Timing ?_ (fun _ _ _ _ _ _ old _ => old) (.inl start) path
  intro w actor input w' actor' old taken
  rcases old with rfl | rfl | rfl
  · cases taken
    cases w.cancelled
    · exact .inr (.inl rfl)
    · exact .inr (.inr rfl)
  · simp only [stepActor,Option.some.injEq] at taken
    split at taken <;> cases taken <;> exact .inr (.inr rfl)
  · cases taken

theorem step_expired (expired : w.entry.expired = true) (taken : stepActor w actor input = some (w',actor')) :
    w'.entry.expired = true := by
  have serves : ∀ bytes file, (serveFile w bytes file).1.entry.expired = true := by
    intro bytes file
    unfold serveFile
    dsimp only
    split <;> exact expired
  cases actor with
  | manifest =>
      simp only [stepActor,expired,Bool.true_or,if_true] at taken
      cases taken
      exact expired
  | download fileIndex =>
      simp only [stepActor,checkFile,expired,if_true] at taken
      cases taken
      exact expired
  | reading file =>
      simp only [stepActor,Option.some.injEq] at taken
      split at taken
      · rename_i bytes _
        have served := serves bytes file
        rwa [taken] at served
      · cases taken
        rfl
  | calling result =>
      cases taken
      exact expired
  | cancelling =>
      simp only [stepActor,expired,Bool.or_true,if_true] at taken
      cases taken
      exact expired
  | waiting =>
      cases taken
      exact expired
  | firing =>
      simp only [stepActor,Option.some.injEq] at taken
      split at taken <;> cases taken
      · exact expired
      · rfl
  | answered result => cases taken
  | returned done => cases taken
  | stopped => cases taken

def Late (fileIndex : Int) (w : Stash) (actor : Actor) : Prop :=
  w.entry.expired = true ∧ (actor = .download fileIndex ∨ ∃ status, actor = .answered (.refused status))

omit [Fintype Index] in
theorem late_refused {i : Index} {fileIndex : Int} (expired : s.world.entry.expired = true) (here : s.threads i = .download fileIndex)
    (path : Reachable (endPool Index) s next) :
    next.threads i = .download fileIndex ∨ ∃ status, next.threads i = .answered (.refused status) := by
  have late : Late fileIndex next.world (next.threads i) := by
    refine thread_kept (Late fileIndex) ?_ ?_ ⟨expired,.inl here⟩ path
    · rintro w actor input w' actor' ⟨over_,standing⟩ taken
      refine ⟨step_expired over_ taken,?_⟩
      rcases standing with rfl | ⟨status,rfl⟩
      · simp only [stepActor,checkFile,over_,if_true] at taken
        cases taken
        exact .inr ⟨410,rfl⟩
      · cases taken
    · rintro w one actor input w' actor' ⟨over_,standing⟩ taken
      exact ⟨step_expired over_ taken,standing⟩
  exact late.2

end Runs

theorem calls_length (calls : List Callback) : calls.length = calls.count .claimed + calls.count .expired := by
  induction calls with
  | nil => rfl
  | cons call rest ih => cases call <;> simp [ih] <;> omega

-- A stash has one end and keeps it; the callback of that end is made once, and of the other
-- never; what begins after the expiry gets no bytes.
theorem stash_ends_once {Index : Type*} [DecidableEq Index] [Fintype Index] (start s next : Pool Index Stash Actor) (starts : Starts start)
    (path : Reaches (endPool Index) endsOnce.Admits start s) (later : Reaches (endPool Index) endsOnce.Admits s next) :
    ¬(s.world.entry.claimed = true ∧ s.world.entry.expired = true) ∧
    (s.world.entry.claimed = true → next.world.entry.claimed = true) ∧
    (s.world.entry.expired = true → next.world.entry.expired = true) ∧
    s.world.calls.length ≤ 1 ∧
    (.claimed ∈ s.world.calls → s.world.entry.claimed = true) ∧ (.expired ∈ s.world.calls → s.world.entry.expired = true) ∧
    ((∀ i, (s.threads i).isFinished = true) → s.world.entry.claimed = true ∧ s.world.calls = [.claimed] ∨
      s.world.entry.expired = true ∧ s.world.calls = [.expired]) ∧
    ∀ after, Reachable (endPool Index) s after → s.world.entry.expired = true → ∀ i fileIndex, s.threads i = .download fileIndex →
      after.threads i = .download fileIndex ∨ ∃ status, after.threads i = .answered (.refused status) := by
  have settles := (run_settles (starts_settles starts) path).1
  have kept := (run_settles settles later).2
  have once := settles.once
  have claimed := settles.claimed
  have expired := settles.expired
  have length := calls_length s.world.calls
  refine ⟨?_,kept.claimed,kept.expired,?_,?_,?_,?_,?_⟩
  · intro ⟨one,other⟩
    rw [once one] at other
    cases other
  · split at claimed
    · rename_i one
      rw [once one] at expired
      simp only [Bool.false_eq_true,if_false] at expired
      omega
    · split at expired <;> omega
  · intro called
    have positive := List.count_pos_iff.mpr called
    by_contra unclaimed
    rw [if_neg unclaimed] at claimed
    omega
  · intro called
    have positive := List.count_pos_iff.mpr called
    by_contra unexpired
    rw [if_neg unexpired] at expired
    omega
  · intro finished
    have owed : ∑ i, owes (s.threads i) = 0 := by
      apply Finset.sum_eq_zero
      intro i _
      have last := finished i
      revert last
      cases s.threads i <;> simp [Actor.isFinished,owes]
    obtain ⟨i,timer⟩ := starts.timer
    have stopped : s.threads i = .stopped := by
      have last := finished i
      rcases timer_kept timer path with here | here | here
      · rw [here] at last
        cases last
      · rw [here] at last
        cases last
      · exact here
    have alone : ∀ call, s.world.calls.length = 1 → s.world.calls.count call = 1 → s.world.calls = [call] := by
      intro call one mine
      obtain ⟨only,same⟩ := List.length_eq_one_iff.mp one
      rw [same,List.count_singleton] at mine
      rw [same]
      split at mine
      · rename_i equal
        rw [eq_of_beq equal]
      · cases mine
    rcases settles.stopped i stopped with one | one
    · rw [if_pos one,owed] at claimed
      rw [once one] at expired
      simp only [Bool.false_eq_true,if_false] at expired
      exact .inl ⟨one,alone .claimed (by omega) (by omega)⟩
    · have unclaimed : ¬s.world.entry.claimed = true := by
        intro other
        rw [once other] at one
        cases one
      rw [if_neg unclaimed,owed] at claimed
      rw [if_pos one] at expired
      exact .inr ⟨one,alone .expired (by omega) (by omega)⟩
  · intro after path' over_ i fileIndex here
    exact late_refused over_ here path'

instance (w : Stash) (actor : Actor) (input : Outside) : Decidable (endsOnce.own w actor input) :=
  inferInstanceAs (Decidable (endsInTurn w actor input = true))
instance (w : Stash) (one two : Actor) (input : Outside) : Decidable (endsOnce.beside w one input two) :=
  inferInstanceAs (Decidable True)
instance (w : Stash) (event : Empty) (actor : Actor) : Decidable (endsOnce.event w event actor) :=
  inferInstanceAs (Decidable True)

def photoStash : Stash := ⟨{files:=[{filePath:="photo.png"}],optCode:="123456",createdAt:=0,expiresAt:=300},false,[]⟩

def shared : Pool (Fin 3) Stash Actor := ⟨photoStash,fun i => if i = 0 then .waiting else if i = 1 then .download 0 else .cancelling⟩

theorem shared_starts : Starts shared := by
  refine ⟨⟨rfl,rfl⟩,⟨rfl,rfl⟩,?_,⟨0,rfl⟩⟩
  intro i
  unfold shared
  dsimp only
  split
  · exact .inr (.inr (.inr rfl))
  · split
    · exact .inr (.inl ⟨0,rfl⟩)
    · exact .inr (.inr (.inl rfl))

-- The timer wakes up, the stash is cancelled, and the timer expires it again.
theorem expired_twice : ∃ s : Pool (Fin 3) Stash Actor, Starts shared ∧ Reachable (endPool (Fin 3)) shared s ∧
    s.world.calls = [.expired,.expired] := by
  obtain ⟨s,path,seen⟩ := checkedRun_exhibits (endPool (Fin 3)) (fun _ _ => True) shared
    ([0,2,0].map fun i => .thread i {}) (fun s => s.world.calls = [.expired,.expired]) (by decide +kernel)
  exact ⟨s,shared_starts,path,of_decide_eq_true seen⟩

-- The file is read and claims the stash; cancel_stash and the timer come too late.
theorem claimed_once : ∃ s : Pool (Fin 3) Stash Actor, s.world.entry.claimed = true ∧ s.world.calls = [.claimed] := by
  obtain ⟨s,path,seen⟩ := checkedRun_exhibits (endPool (Fin 3)) endsOnce.Admits shared
    [.thread 0 {},.thread 1 {},.thread 1 {read:=some [1,2]},.thread 1 {},.thread 2 {},.thread 0 {}]
    (fun s => decide (∀ i, (s.threads i).isFinished = true) && !s.world.entry.expired) (by decide +kernel)
  simp only [Bool.and_eq_true,decide_eq_true_eq,Bool.not_eq_true'] at seen
  obtain ⟨finished,unexpired⟩ := seen
  have whole := stash_ends_once shared s s shared_starts path reaches_refl
  rcases whole.2.2.2.2.2.2.1 finished with claimed | ⟨expired,-⟩
  · exact ⟨s,claimed⟩
  · rw [unexpired] at expired
    cases expired

end ImageSearch.EndedStashes
