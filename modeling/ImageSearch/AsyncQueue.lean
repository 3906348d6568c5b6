import Mathlib.Algebra.BigOperators.Group.List.Basic
import Mathlib.Algebra.GroupWithZero.Nat

namespace ImageSearch.AsyncQueue

variable {Item : Type*}

-- A promise is the number of the call of shift that made it. A resolved one stays until
-- the consumer that awaits it runs again.
structure Queue (Item : Type*) where
  items : List Item
  waiters : List Nat
  closed : Bool
  resolved : List (Nat × Option Item)
  issued : Nat
  drained : ∀ entry ∈ resolved, entry.2 = none → closed = true ∧ items = []

def Queue.empty : Queue Item := ⟨[],[],false,[],0,by simp⟩

variable {queue next : Queue Item} {item : Item} {promise : Nat}

theorem drained_append {entries : List (Nat × Option Item)} {closed : Bool} {items : List Item}
    {added : Nat × Option Item} (old : ∀ entry ∈ entries, entry.2 = none → closed = true ∧ items = [])
    (new : added.2 = none → closed = true ∧ items = []) :
    ∀ entry ∈ entries ++ [added], entry.2 = none → closed = true ∧ items = [] := by
  intro entry member
  rcases List.mem_append.mp member with before | last
  · exact old entry before
  · cases List.mem_singleton.mp last
    exact new

def Queue.push (queue : Queue Item) (item : Item) : Queue Item :=
  if shut : queue.closed = true then queue else
  match queue.waiters with
  | waiter :: waiters => {queue with
      waiters
      resolved:=queue.resolved ++ [(waiter,some item)]
      drained:=drained_append queue.drained (by simp)}
  | [] => {queue with
      items:=queue.items ++ [item]
      drained:=fun entry member none => absurd (queue.drained entry member none).1 shut}

def Queue.tryShift (queue : Queue Item) : Option (Item × Queue Item) :=
  match held : queue.items with
  | [] => none
  | item :: items => some (item,{queue with
      items
      drained:=fun entry member none => absurd (held ▸ (queue.drained entry member none).2) (by simp)})

def Queue.shift (queue : Queue Item) : Queue Item :=
  match queue.tryShift with
  | some (item,rest) => {rest with
      resolved:=rest.resolved ++ [(queue.issued,some item)]
      issued:=queue.issued+1
      drained:=drained_append rest.drained (by simp)}
  | none =>
    if ended : queue.closed = true ∧ queue.items = [] then {queue with
      resolved:=queue.resolved ++ [(queue.issued,none)]
      issued:=queue.issued+1
      drained:=drained_append queue.drained fun _ => ended}
    else {queue with
      waiters:=queue.waiters ++ [queue.issued]
      issued:=queue.issued+1}

def Queue.close (queue : Queue Item) : Queue Item :=
  if queue.closed then queue else {queue with
    items:=queue.items.drop queue.waiters.length
    waiters:=[]
    closed:=true
    resolved:=queue.resolved ++ (queue.waiters.zip queue.items).map (fun pair => (pair.1,some pair.2)) ++
      (queue.waiters.drop queue.items.length).map fun waiter => (waiter,none)
    drained:=by
      intro entry member none
      refine ⟨rfl,?_⟩
      rw [List.append_assoc] at member
      rcases List.mem_append.mp member with before | now
      · rw [(queue.drained entry before none).2,List.drop_nil]
      · rcases List.mem_append.mp now with served | unserved
        · obtain ⟨pair,-,rfl⟩ := List.mem_map.mp served
          cases none
        · obtain ⟨waiter,left,-⟩ := List.mem_map.mp unserved
          have more := List.length_pos_of_mem left
          rw [List.length_drop] at more
          exact List.drop_eq_nil_of_le (by omega)}

def Queue.take (queue : Queue Item) (promise : Nat) : Option (Option Item × Queue Item) :=
  match queue.resolved.find? (fun entry => entry.1 = promise) with
  | none => none
  | some entry => some (entry.2,{queue with
      resolved:=queue.resolved.eraseP fun entry => entry.1 = promise
      drained:=fun other member => queue.drained other (List.mem_of_mem_eraseP member)})

def Queue.dropItems (queue : Queue Item) (count : Nat) : Queue Item :=
  {queue with
    items:=queue.items.drop count
    drained:=fun entry member none => by
      obtain ⟨shut,empty⟩ := queue.drained entry member none
      exact ⟨shut,by rw [empty,List.drop_nil]⟩}

theorem take_parts {item? : Option Item} (taken : queue.take promise = some (item?,next)) :
    next.items = queue.items ∧ next.waiters = queue.waiters ∧ next.closed = queue.closed ∧
    ∃ before after, queue.resolved = before ++ (promise,item?) :: after ∧ next.resolved = before ++ after := by
  unfold Queue.take at taken
  split at taken
  · cases taken
  · rename_i entry found
    cases taken
    refine ⟨rfl,rfl,rfl,?_⟩
    obtain ⟨here,before,after,whole,earlier⟩ := List.find?_eq_some_iff_append.mp found
    have awaited : entry.1 = promise := by simpa using here
    refine ⟨before,after,by rw [whole,← awaited],?_⟩
    dsimp only
    rw [whole,List.eraseP_append_right _ (by simpa using earlier)]
    simp [awaited]

theorem push_closed : (queue.push item).closed = queue.closed := by
  unfold Queue.push
  split
  · rfl
  · split <;> rfl

theorem push_shut (shut : queue.closed = true) : queue.push item = queue := by
  unfold Queue.push
  rw [dif_pos shut]

theorem shift_closed : queue.shift.closed = queue.closed := by
  unfold Queue.shift Queue.tryShift
  split
  · rename_i item rest first
    split at first
    · cases first
    · cases first; rfl
  · split <;> rfl

theorem shift_empty (empty : queue.items = []) : queue.shift.items = [] := by
  unfold Queue.shift Queue.tryShift
  split
  · rename_i item rest first
    split at first
    · cases first
    · rename_i cons
      cases empty.symm.trans cons
  · split <;> exact empty

theorem close_shut (shut : queue.closed = true) : queue.close = queue := by
  unfold Queue.close
  rw [if_pos shut]

def Queue.Drained (queue : Queue Item) : Prop := queue.closed = true ∧ queue.items = []

theorem take_ended (taken : queue.take promise = some (none,next)) : queue.Drained := by
  obtain ⟨-,-,-,before,after,whole,-⟩ := take_parts taken
  exact queue.drained (promise,none) (by simp [whole]) rfl

theorem take_drained {item? : Option Item} (finished : queue.Drained) (taken : queue.take promise = some (item?,next)) :
    next.Drained := by
  obtain ⟨items,-,closed,-⟩ := take_parts taken
  exact ⟨closed.trans finished.1,items.trans finished.2⟩

theorem push_drained (finished : queue.Drained) : (queue.push item).Drained := by
  rw [push_shut finished.1]
  exact finished

theorem shift_drained (finished : queue.Drained) : queue.shift.Drained :=
  ⟨shift_closed.trans finished.1,shift_empty finished.2⟩

theorem close_drained (finished : queue.Drained) : queue.close.Drained := by
  rw [close_shut finished.1]
  exact finished

theorem dropItems_drained {count : Nat} (finished : queue.Drained) : (queue.dropItems count).Drained :=
  ⟨finished.1,by simp [Queue.dropItems,finished.2]⟩

def Queue.outstanding (queue : Queue Item) : Nat := queue.waiters.length + queue.resolved.length

theorem push_outstanding : (queue.push item).outstanding = queue.outstanding := by
  unfold Queue.push Queue.outstanding
  split
  · rfl
  · split
    · rename_i waiter waiters held
      simp only [held,List.length_cons,List.length_append,List.length_nil]
      omega
    · rfl

theorem shift_outstanding : queue.shift.outstanding = queue.outstanding+1 := by
  unfold Queue.shift Queue.tryShift Queue.outstanding
  split
  · rename_i item rest first
    split at first
    · cases first
    · cases first
      simp only [List.length_append,List.length_cons,List.length_nil]
      omega
  · split
    · simp only [List.length_append,List.length_cons,List.length_nil]
      omega
    · simp only [List.length_append,List.length_cons,List.length_nil]
      omega

theorem close_outstanding : queue.close.outstanding = queue.outstanding := by
  unfold Queue.close Queue.outstanding
  split
  · rfl
  · simp only [List.length_append,List.length_map,List.length_zip,List.length_drop,List.length_nil]
    omega

theorem take_outstanding {item? : Option Item} (taken : queue.take promise = some (item?,next)) :
    next.outstanding + 1 = queue.outstanding := by
  obtain ⟨-,waiters,-,before,after,whole,rest⟩ := take_parts taken
  simp only [Queue.outstanding,waiters,whole,rest,List.length_append,List.length_cons]
  omega

section Weight
variable {f : Item → Nat}

def Queue.weight (f : Item → Nat) (queue : Queue Item) : Nat :=
  (queue.items.map f).sum + (queue.resolved.map fun entry => entry.2.elim 0 f).sum

theorem push_weight (opened : queue.closed = false) : (queue.push item).weight f = queue.weight f + f item := by
  unfold Queue.push Queue.weight
  split
  · rename_i shut
    simp [shut] at opened
  · split
    · simp only [List.map_append,List.map_cons,List.map_nil,List.sum_append,List.sum_cons,List.sum_nil,Option.elim_some]
      omega
    · simp only [List.map_append,List.map_cons,List.map_nil,List.sum_append,List.sum_cons,List.sum_nil]
      omega

theorem shift_weight : queue.shift.weight f = queue.weight f := by
  unfold Queue.shift Queue.tryShift Queue.weight
  split
  · rename_i item rest first
    split at first
    · cases first
    · rename_i held items cons
      cases first
      simp only [cons,List.map_append,List.map_cons,List.map_nil,List.sum_append,List.sum_cons,List.sum_nil,
        Option.elim_some]
      omega
  · split
    · simp
    · rfl

theorem take_weight {item? : Option Item} (taken : queue.take promise = some (item?,next)) :
    next.weight f + item?.elim 0 f = queue.weight f := by
  obtain ⟨items,-,-,before,after,whole,rest⟩ := take_parts taken
  simp only [Queue.weight,items,whole,rest,List.map_append,List.map_cons,List.sum_append,List.sum_cons]
  omega

theorem zip_weight (waiters : List Nat) (items : List Item) :
    ((waiters.zip items).map fun pair => f pair.2).sum + ((items.drop waiters.length).map f).sum = (items.map f).sum := by
  induction waiters generalizing items with
  | nil => simp
  | cons waiter waiters ih =>
      cases items with
      | nil => simp
      | cons item items =>
          have rest := ih items
          simp only [List.zip_cons_cons,List.map_cons,List.sum_cons,List.length_cons,List.drop_succ_cons]
          omega

theorem close_weight : queue.close.weight f = queue.weight f := by
  unfold Queue.close Queue.weight
  split
  · rfl
  · have served := @zip_weight Item f queue.waiters queue.items
    have unserved : ((queue.waiters.drop queue.items.length).map fun _ => 0).sum = 0 := by simp
    simp only [List.map_append,List.sum_append,List.map_map,Function.comp_def,Option.elim_some,Option.elim_none]
    omega

theorem dropItems_weight {count : Nat} :
    (queue.dropItems count).weight f + ((queue.items.take count).map f).sum = queue.weight f := by
  have whole := congrArg (fun items => (items.map f).sum) (List.take_append_drop count queue.items)
  simp only [List.map_append,List.sum_append] at whole
  simp only [Queue.weight,Queue.dropItems]
  omega

theorem weight_received (received : queue.outstanding = 0) (empty : queue.items = []) : queue.weight f = 0 := by
  have none : queue.resolved = [] := List.length_eq_zero_iff.mp (by unfold Queue.outstanding at received; omega)
  simp [Queue.weight,empty,none]

end Weight

end ImageSearch.AsyncQueue
