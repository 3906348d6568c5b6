import ImageSearch.ExportPipelines
import Mathlib.Algebra.BigOperators.Group.List.Basic
import Mathlib.Algebra.Order.Group.Nat
import Mathlib.Data.List.Perm.Basic

namespace ImageSearch.ExportWindows
open PhoneRuns ExportPipelines

section Groups
variable {α : Type} {items : List α} {position : Nat} {item : α} {f : α → Nat}

theorem perm_erased (found : items[position]? = some item) : items.Perm (item :: items.eraseIdx position) := by
  obtain ⟨bound,rfl⟩ := List.getElem?_eq_some_iff.mp found
  exact (List.getElem_cons_eraseIdx_perm bound).symm

theorem sum_erased (found : items[position]? = some item) :
    (items.map f).sum = f item + ((items.eraseIdx position).map f).sum := by
  simpa using ((perm_erased found).map f).sum_eq

theorem sum_set (found : items[position]? = some item) (next : α) :
    ((items.set position next).map f).sum + f item = (items.map f).sum + f next := by
  obtain ⟨bound,rfl⟩ := List.getElem?_eq_some_iff.mp found
  have set := ((List.set_perm_cons_eraseIdx bound next).map f).sum_eq
  have erased := sum_erased (f := f) found
  simp only [List.map_cons,List.sum_cons] at set
  omega

theorem map_set {Key : Type} {key : α → Key} (found : items[position]? = some item) {next : α} (same : key next = key item) :
    (items.set position next).map key = items.map key := by
  obtain ⟨bound,rfl⟩ := List.getElem?_eq_some_iff.mp found
  rw [List.map_set,same,← List.getElem_map key (h:=by simpa using bound),List.set_getElem_self]

end Groups

section Removed
variable {Value : Type} {key : Nat} {entries rest : List (Nat × Value)} {value : Value}

theorem removed_none : removeValue key entries = none ↔ key ∉ entries.map Prod.fst := by
  induction entries with
  | nil => simp [removeValue]
  | cons entry entries ih =>
    obtain ⟨index,value⟩ := entry
    by_cases same : index = key
    · simp [removeValue,same]
    · simpa [removeValue,same,Ne.symm same] using ih

theorem removed_perm (removed : removeValue key entries = some (value,rest)) : entries.Perm ((key,value) :: rest) := by
  induction entries generalizing rest with
  | nil => cases removed
  | cons entry entries ih =>
    obtain ⟨index,other⟩ := entry
    by_cases same : index = key
    · subst same
      simp only [removeValue,if_true,Option.some.injEq,Prod.mk.injEq] at removed
      rw [removed.1,removed.2]
    · simp only [removeValue,if_neg same,Option.map_eq_some_iff,Prod.mk.injEq,Prod.exists] at removed
      obtain ⟨found,others,removed,rfl,rfl⟩ := removed
      exact ((ih removed).cons _).trans (List.Perm.swap _ _ _)

end Removed

variable {settings : Settings} {p p' : Production} {stops : Bool} {limit low : Nat}

def held : Producer → Nat
  | .enqueuing _ | .enqueued => 1
  | _ => 0

def entries (p : Production) (k : Nat) : Nat :=
  (p.exportGroup.map ExportTask.index).count k + (p.pendingResultsByIndex.map Prod.fst).count k

-- Every index from `low` to the next asset's is in flight or pending, and no other is.
structure Window (low : Nat) (p : Production) : Prop where
  counted : p.inFlightExportCount = p.exportGroup.length
  indices : ∀ k, entries p k ≤ 1 ∧ (0 < entries p k ↔ low ≤ k ∧ k < p.nextAssetIndex)
  started : low ≤ p.nextAssetIndex
  within : p.nextAssetIndex ≤ p.assets.length

def Exhausted (p : Production) : Prop := p.groupCancelled = true ∨ p.nextAssetIndex = p.assets.length

structure Windowed (p : Production) : Prop where
  window : Window (p.nextResultIndexToEnqueue + held p.producer) p
  drained : held p.producer = 0 → p.nextResultIndexToEnqueue ∉ p.pendingResultsByIndex.map Prod.fst
  ended : p.producer = .closing ∨ p.producer = .done → p.exportGroup = [] ∧ Exhausted p

theorem window_empty (window : Window low p) (gap : low ∉ p.pendingResultsByIndex.map Prod.fst)
    (idle : p.exportGroup = []) : p.pendingResultsByIndex = [] ∧ low = p.nextAssetIndex := by
  have met : low = p.nextAssetIndex := by
    by_contra apart
    have counted := window.indices low
    have started := window.started
    simp [entries,idle,List.count_eq_zero_of_not_mem gap] at counted
    omega
  refine ⟨?_,met⟩
  rw [← List.map_eq_nil_iff (f := Prod.fst),List.eq_nil_iff_forall_not_mem]
  intro k
  have counted := window.indices k
  exact List.count_eq_zero.mp (by unfold entries at counted; omega)

-- Once the producer has left its loop nothing is in flight or pending any more.
theorem ended_empty (windowed : Windowed p) (ended : p.producer = .closing ∨ p.producer = .done) :
    p.exportGroup = [] ∧ p.pendingResultsByIndex = [] ∧ Exhausted p := by
  have idle := windowed.ended ended
  have free : held p.producer = 0 := by rcases ended with at_ | at_ <;> rw [at_] <;> rfl
  have window := windowed.window
  rw [free] at window
  exact ⟨idle.1,(window_empty window (windowed.drained free) idle.1).1,idle.2⟩

theorem begun_windowed (assets launched : List String) : Windowed {assets,launched} where
  window := ⟨rfl,by simp [entries,held],Nat.le_refl _,Nat.zero_le _⟩
  drained := by simp
  ended := by rintro (same | same) <;> cases same

theorem launch_window (window : Window low p) : Window low p.launchExport := by
  unfold Production.launchExport
  split
  · exact window
  · rename_i descriptor found
    obtain ⟨bound,-⟩ := List.getElem?_eq_some_iff.mp found
    refine ⟨by simp [window.counted],?_,Nat.le_succ_of_le window.started,bound⟩
    intro k
    have counted := window.indices k
    have started := window.started
    simp only [entries,List.map_append,List.map_singleton,List.count_append,List.count_singleton,beq_iff_eq] at counted ⊢
    by_cases same : p.nextAssetIndex = k
    · rw [if_pos same]; omega
    · rw [if_neg same]; omega

theorem launches_window (window : Window low p) : Window low (p.launchExports limit) := by
  induction limit generalizing p with
  | zero => exact window
  | succ limit ih => exact ih (launch_window window)

structure Kept (p p' : Production) : Prop where
  assets : p'.assets = p.assets
  pending : p'.pendingResultsByIndex = p.pendingResultsByIndex
  next : p'.nextResultIndexToEnqueue = p.nextResultIndexToEnqueue

theorem launch_kept : Kept p p.launchExport := by
  unfold Production.launchExport
  split <;> exact ⟨rfl,rfl,rfl⟩

theorem launches_kept : Kept p (p.launchExports limit) := by
  induction limit generalizing p with
  | zero => exact ⟨rfl,rfl,rfl⟩
  | succ limit ih =>
    have one := launch_kept (p := p)
    have more := ih (p := p.launchExport)
    exact ⟨more.assets.trans one.assets,more.pending.trans one.pending,more.next.trans one.next⟩

theorem launches_inFlight (some_ : 0 < p.inFlightExportCount) : 0 < (p.launchExports limit).inFlightExportCount := by
  induction limit generalizing p with
  | zero => exact some_
  | succ limit ih =>
    apply ih
    unfold Production.launchExport
    split
    · exact some_
    · exact Nat.succ_pos _

-- With room for one more, either one is launched or no asset is left.
theorem launches_exhausted (window : Window low p) (room : 0 < limit) :
    0 < (p.launchExports limit).inFlightExportCount ∨ Exhausted (p.launchExports limit) := by
  obtain ⟨limit,rfl⟩ := Nat.exists_eq_add_one.mpr room
  cases found : p.assets[p.nextAssetIndex]? with
  | some descriptor =>
    have one : 0 < p.launchExport.inFlightExportCount := by simp [Production.launchExport,found]
    have more : 0 < (p.launchExport.launchExports limit).inFlightExportCount := launches_inFlight one
    exact .inl more
  | none =>
    have bound := List.getElem?_eq_none_iff.mp found
    have same : p.launchExport = p := by simp [Production.launchExport,found]
    have all : ∀ n, p.launchExports n = p := by
      intro n
      induction n with
      | zero => rfl
      | succ n ih => rw [Production.launchExports,same,ih]
    rw [all]
    exact .inr (.inr (Nat.le_antisymm window.within bound))

theorem await_windowed (window : Window p.nextResultIndexToEnqueue p)
    (gap : p.nextResultIndexToEnqueue ∉ p.pendingResultsByIndex.map Prod.fst)
    (exhausted : 0 < p.inFlightExportCount ∨ Exhausted p) : Windowed p.awaitExport := by
  have free : held p.awaitExport.producer = 0 := by
    unfold Production.awaitExport
    dsimp only
    split <;> rfl
  refine ⟨?_,fun _ => gap,?_⟩
  · rw [free]
    exact ⟨window.counted,window.indices,window.started,window.within⟩
  · unfold Production.awaitExport
    dsimp only
    split
    · rintro (same | same) <;> cases same
    · rename_i none_
      intro _
      exact ⟨List.eq_nil_of_length_eq_zero (by rw [← window.counted]; omega),exhausted.resolve_left none_⟩

theorem goOn_windowed (window : Window p.nextResultIndexToEnqueue p)
    (gap : p.nextResultIndexToEnqueue ∉ p.pendingResultsByIndex.map Prod.fst) (room : 0 < limit) :
    Windowed (p.goOn stops limit) := by
  unfold Production.goOn
  split
  · exact await_windowed ⟨window.counted,window.indices,window.started,window.within⟩ gap (.inr (.inl rfl))
  · have kept : Kept p (p.launchExports limit) := launches_kept
    apply await_windowed
    · rw [kept.next]
      exact launches_window window
    · rw [kept.next,kept.pending]
      exact gap
    · exact launches_exhausted window room

theorem enqueue_windowed (window : Window p.nextResultIndexToEnqueue p) : Windowed (p.enqueueOrdered stops) := by
  unfold Production.enqueueOrdered
  split
  · rename_i orderedResult rest removed
    have perm := (removed_perm removed).map Prod.fst
    refine ⟨⟨window.counted,?_,?_,window.within⟩,?_,?_⟩
    · intro k
      have counted := window.indices k
      simp only [entries,held,perm.count_eq,List.map_cons,List.count_cons,beq_iff_eq] at counted ⊢
      by_cases same : p.nextResultIndexToEnqueue = k
      · rw [if_pos same] at counted; omega
      · rw [if_neg same] at counted; omega
    · have at_ := window.indices p.nextResultIndexToEnqueue
      simp only [entries,perm.count_eq,List.map_cons,List.count_cons_self] at at_
      simp only [held]
      omega
    · intro free; cases free
    · rintro (same | same) <;> cases same
  · rename_i missing
    exact goOn_windowed window (removed_none.mp missing) Nat.one_pos

end ImageSearch.ExportWindows
