import Mathlib.Data.Finset.Image
import Mathlib.Data.String.Basic
import ImageSearch.SortedRows
import ImageSearch.ParentFolders
import ImageSearch.FindablePhotos

namespace ImageSearch.FolderTree
open SortedRows FolderEvents ParentFolders

inductive SectionKind where
  | localFolders | mobileFolders
  deriving DecidableEq, Repr

-- What a path resolves to, and what the file system and the predicate say of it.
structure RootCandidate where
  path : String
  isDir : Bool
  accepted : Bool

-- The registry has an item for each section, in an unsectioned tree only its invisible root, which is `none`. Each
-- keeps the paths of its root items in its own rows.
structure FolderTreeModel where
  sectionedView : Bool
  registry : Option SectionKind → List String
  mobileFolderPaths : Finset String

-- _section_kind_for_folder_path_in_set
def sectionKindInSet (path : String) (mobileFolderPaths : Finset String) : SectionKind :=
  if registered path ∈ mobileFolderPaths then .mobileFolders else .localFolders

def itemPaths (casefold : String → String) (items : List String) : List String :=
  sorted casefold ((items.filter fun path => path ≠ "").map registered)

namespace FolderTreeModel
variable (casefold : String → String) (m : FolderTreeModel) (kind : SectionKind) (path : String)
  (parent : Option SectionKind) (row : Nat)

def registryParent : Option SectionKind := if m.sectionedView then some kind else none

def rootPathsForSection : List String := itemPaths casefold (m.registry (m.registryParent kind))

def allRootPaths : List String :=
  if m.sectionedView then m.rootPathsForSection casefold .localFolders ++ m.rootPathsForSection casefold .mobileFolders
  else itemPaths casefold (m.registry none)

def hasRootFolder : Bool := registered path ∈ m.allRootPaths casefold

def sectionKind : SectionKind := sectionKindInSet path m.mobileFolderPaths

def rootInsertRow : Nat := (sorted casefold (m.rootPathsForSection casefold kind ++ [path])).idxOf path

def rowOfRootInSection : Option Nat :=
  (m.registry (m.registryParent kind)).findIdx? fun item => item ≠ "" && registered item = registered path

-- The root folders that rowCount and index give under each parent.
def shownRows : Option SectionKind → List String
  | none => if m.sectionedView then [] else m.allRootPaths casefold
  | some kind => if m.sectionedView then m.rootPathsForSection casefold kind else []

def withRows (rows : List String) : FolderTreeModel := {m with registry:=Function.update m.registry parent rows}

def insertRow : FolderTreeModel := m.withRows parent ((m.registry parent).insertIdx row path)

def removeRow : FolderTreeModel := m.withRows parent ((m.registry parent).eraseIdx row)

end FolderTreeModel

inductive Notification where
  | rowsInserted (parent : Option SectionKind) (row : Nat)
  | rowsRemoved (parent : Option SectionKind) (row : Nat)
  | rowsMoved (source : Option SectionKind) (row : Nat) (target : Option SectionKind) (destination : Nat)

-- The root folders a view has under each parent. It asks the model for an inserted row only.
abbrev View := Option SectionKind → List String

def View.follow (casefold : String → String) (model : FolderTreeModel) (view : View) : Notification → View
  | .rowsInserted parent row => match (model.shownRows casefold parent)[row]? with
    | some path => Function.update view parent ((view parent).insertIdx row path)
    | none => view
  | .rowsRemoved parent row => Function.update view parent ((view parent).eraseIdx row)
  | .rowsMoved source row target destination => match (view source)[row]? with
    | some path =>
      let view := Function.update view source ((view source).eraseIdx row)
      Function.update view target ((view target).insertIdx destination path)
    | none => view

-- Ghost: the folders that were added and are not deleted since.
structure Tree where
  model : FolderTreeModel
  view : View
  held : Finset String

def Tree.new (sectionedView : Bool) : Tree := ⟨⟨sectionedView,fun _ => [],∅⟩,fun _ => [],∅⟩

section Calls
variable (casefold : String → String) (t : Tree)

def Tree.notified (model : FolderTreeModel) (notification : Notification) : Tree :=
  {t with model,view:=t.view.follow casefold model notification}

def Tree.addRootFolder (candidate : RootCandidate) : Tree :=
  let path := registered candidate.path
  if !candidate.isDir || !candidate.accepted then t
  else if t.model.hasRootFolder casefold path then t
  else
    let kind := t.model.sectionKind path
    let parent := t.model.registryParent kind
    let row := t.model.rootInsertRow casefold kind path
    {t with held:=insert path t.held}.notified casefold (t.model.insertRow path parent row) (.rowsInserted parent row)

-- A root item of an unsectioned tree has no parent, and then nothing is deleted.
def Tree.deleteFolder (row : Nat) (path : String) : Tree :=
  if !t.model.sectionedView then t
  else
    let parent := some (t.model.sectionKind path)
    {t with held:=t.held.erase path}.notified casefold (t.model.removeRow parent row) (.rowsRemoved parent row)

def Tree.moveRootBetweenSections (path : String) (source target : SectionKind) : Tree :=
  if source = target then t
  else match t.model.rowOfRootInSection source path with
    | none => t
    | some row =>
      let destination := t.model.rootInsertRow casefold target path
      let rest := t.model.removeRow (some source) row
      let model := match (t.model.registry (some source))[row]? with
        | some item => rest.insertRow item (some target) destination
        | none => rest
      t.notified casefold model (.rowsMoved (some source) row (some target) destination)

-- The `while True` of one section; `none` is out of fuel.
def Tree.moveRoots (mobileFolderPaths : Finset String) (source : SectionKind) : Nat → Tree → Option Tree
  | 0,_ => none
  | fuel + 1,t =>
    match (t.model.rootPathsForSection casefold source).find? fun path => sectionKindInSet path mobileFolderPaths ≠ source with
    | none => some t
    | some path => Tree.moveRoots mobileFolderPaths source fuel
      (t.moveRootBetweenSections casefold path source (sectionKindInSet path mobileFolderPaths))

def Tree.moveRootsForMobileFolderPaths (mobileFolderPaths : Finset String) : Option Tree :=
  if !t.model.sectionedView then some t
  else [SectionKind.localFolders,.mobileFolders].foldlM (fun t source =>
    t.moveRoots casefold mobileFolderPaths source ((t.model.registry (some source)).length + 1)) t

def Tree.setMobileFolderPaths (folderPaths : List String) : Option Tree :=
  let new := (folderPaths.map registered).toFinset
  if new = t.model.mobileFolderPaths then some t
  else (t.moveRootsForMobileFolderPaths casefold new).map fun t => {t with model:={t.model with mobileFolderPaths:=new}}

-- A folder is deleted by an index that the view holds.
inductive Call where
  | addRootFolder (candidates : List RootCandidate)
  | deleteFolder (parent : Option SectionKind) (row : Nat)
  | setMobileFolderPaths (folderPaths : List String)

def Tree.call : Call → Option Tree
  | .addRootFolder candidates => some (candidates.foldl (fun t candidate => t.addRootFolder casefold candidate) t)
  | .deleteFolder parent row => some <| match (t.view parent)[row]? with
    | some path => t.deleteFolder casefold row path
    | none => t
  | .setMobileFolderPaths folderPaths => t.setMobileFolderPaths casefold folderPaths

def Tree.run (calls : List Call) : Option Tree := calls.foldlM (fun t call => t.call casefold call) t

end Calls

variable {casefold : String → String} {m : FolderTreeModel} {t next : Tree} {path item : String} {kind source target : SectionKind}
  {parent other : Option SectionKind} {rows : List String} {row : Nat} {sectionedView : Bool}

section Registry
open FolderTreeModel

structure RootRows (casefold : String → String) (rows : List String) : Prop where
  ordered : rows.Pairwise fun one two => casefold one ≤ casefold two
  plain : ∀ path ∈ rows, registered path = path
  once : rows.Nodup

-- The registry is sorted, and a root is in it once.
structure Kept (casefold : String → String) (m : FolderTreeModel) : Prop where
  rows : ∀ parent, RootRows casefold (m.registry parent)
  apart : ∀ {parent other path}, path ∈ m.registry parent → path ∈ m.registry other → parent = other
  sectioned : ∀ {parent path}, path ∈ m.registry parent → parent.isSome = m.sectionedView

theorem registered_again : registered (registered path) = registered path := by
  have closed : normalizedFolderPath (registered path) = registered path := by
    rw [normalizedFolderPath,if_pos (registered_slash path)]
  rw [registered,closed]
  exact FindablePhotos.slashes_again

theorem registered_named (plain : registered path = path) : path ≠ "" := by
  rintro rfl
  have slash := registered_slash ""
  rw [plain] at slash
  cases slash

theorem items_rows (rootRows : RootRows casefold rows) : itemPaths casefold rows = rows := by
  have named : rows.filter (fun path => path ≠ "") = rows :=
    List.filter_eq_self.mpr fun path member => decide_eq_true (registered_named (rootRows.plain path member))
  rw [itemPaths,named,List.map_congr_left rootRows.plain,List.map_id',sorted_same rootRows.ordered]

theorem other_empty (kept : Kept casefold m) (away : parent.isSome ≠ m.sectionedView) : m.registry parent = [] :=
  List.eq_nil_iff_forall_not_mem.mpr fun _ member => away (kept.sectioned member)

theorem all_roots (kept : Kept casefold m) : m.allRootPaths casefold =
    if m.sectionedView then m.registry (some .localFolders) ++ m.registry (some .mobileFolders) else m.registry none := by
  unfold allRootPaths rootPathsForSection registryParent
  simp only [items_rows (kept.rows _)]
  split <;> rfl

theorem shown_registry (kept : Kept casefold m) : m.shownRows casefold = m.registry := by
  funext parent
  cases view : m.sectionedView with
  | true =>
      cases parent with
      | none =>
          have empty : m.registry none = [] := other_empty kept (by simp [view])
          simp [shownRows,view,empty]
      | some kind => simp [shownRows,rootPathsForSection,registryParent,view,items_rows (kept.rows _)]
  | false =>
      cases parent with
      | none => simp [shownRows,all_roots kept,view]
      | some kind =>
          have empty : m.registry (some kind) = [] := other_empty kept (by simp [view])
          simp [shownRows,view,empty]

theorem roots_iff (kept : Kept casefold m) : path ∈ m.allRootPaths casefold ↔ ∃ parent, path ∈ m.registry parent := by
  rw [all_roots kept]
  constructor
  · intro member
    split at member
    · rcases List.mem_append.mp member with first | second
      · exact ⟨_,first⟩
      · exact ⟨_,second⟩
    · exact ⟨_,member⟩
  · rintro ⟨parent,member⟩
    rw [← kept.sectioned member]
    cases parent with
    | none => exact member
    | some kind =>
        cases kind with
        | localFolders => exact List.mem_append_left _ member
        | mobileFolders => exact List.mem_append_right _ member

theorem roots_once (kept : Kept casefold m) : (m.allRootPaths casefold).Nodup := by
  rw [all_roots kept]
  split
  · refine List.Nodup.append (kept.rows _).once (kept.rows _).once fun path first second => ?_
    cases kept.apart first second
  · exact (kept.rows _).once

theorem rows_with : (m.withRows parent rows).registry other = if other = parent then rows else m.registry other :=
  Function.update_apply m.registry parent rows other

theorem kept_rows (kept : Kept casefold m) (rootRows : RootRows casefold rows)
    (apart : ∀ {other path}, other ≠ parent → path ∈ rows → path ∉ m.registry other)
    (sectioned : ∀ path ∈ rows, parent.isSome = m.sectionedView) : Kept casefold (m.withRows parent rows) := by
  refine ⟨?_,?_,?_⟩
  · intro other
    rw [rows_with]
    split
    · exact rootRows
    · exact kept.rows other
  · intro one two path first second
    rw [rows_with] at first second
    split at first <;> split at second
    · rename_i here there
      exact here.trans there.symm
    · rename_i away
      exact absurd second (apart away first)
    · rename_i away _
      exact absurd first (apart away second)
    · exact kept.apart first second
  · intro other path member
    rw [rows_with] at member
    split at member
    · rename_i here
      rw [here]
      exact sectioned path member
    · exact kept.sectioned member

theorem kept_remove (kept : Kept casefold m) : Kept casefold (m.removeRow parent row) := by
  have less : ((m.registry parent).eraseIdx row).Sublist (m.registry parent) := List.eraseIdx_sublist _ _
  have before := kept.rows parent
  refine kept_rows kept ⟨before.ordered.sublist less,fun path member => before.plain path (less.subset member),
    before.once.sublist less⟩ ?_ ?_
  · intro other path away member there
    exact away (kept.apart there (less.subset member))
  · intro path member
    exact kept.sectioned (less.subset member)

theorem mem_removed (once : (m.registry parent).Nodup) (there : (m.registry parent)[row]? = some path) :
    item ∈ (m.removeRow parent row).registry other ↔ item ∈ m.registry other ∧ ¬(other = parent ∧ item = path) := by
  rw [removeRow,rows_with]
  split
  · rename_i here
    obtain ⟨inside,same⟩ := List.getElem?_eq_some_iff.mp there
    have parts := List.getElem_cons_eraseIdx_perm inside
    rw [same] at parts
    have apart := (List.nodup_cons.mp (parts.nodup_iff.mpr once)).1
    rw [here,← parts.mem_iff,List.mem_cons]
    constructor
    · intro member
      exact ⟨.inr member,fun equal => apart (equal.2 ▸ member)⟩
    · rintro ⟨equal | member,differs⟩
      · exact absurd ⟨rfl,equal⟩ differs
      · exact member
  · rename_i away
    simp [away]

-- The row that is computed for a root is the one where it keeps the rows sorted.
theorem inserted_rows (kept : Kept casefold m) (fresh : path ∉ m.registry (m.registryParent kind)) :
    (m.registry (m.registryParent kind)).insertIdx (m.rootInsertRow casefold kind path) path =
      sorted casefold (m.registry (m.registryParent kind) ++ [path]) := by
  rw [rootInsertRow,rootPathsForSection,items_rows (kept.rows _)]
  exact insert_sorted (kept.rows _).ordered fresh

theorem insert_inside (kept : Kept casefold m) : m.rootInsertRow casefold kind path ≤ (m.registry (m.registryParent kind)).length := by
  rw [rootInsertRow,rootPathsForSection,items_rows (kept.rows _)]
  exact sorted_inside

theorem mem_inserted (inside : row ≤ (m.registry parent).length) :
    item ∈ (m.insertRow path parent row).registry other ↔ other = parent ∧ item = path ∨ item ∈ m.registry other := by
  rw [insertRow,rows_with]
  split
  · rename_i here
    rw [(List.perm_insertIdx path _ inside).mem_iff,List.mem_cons,here]
    simp
  · rename_i away
    simp [away]

theorem kept_insert (kept : Kept casefold m) (plain : registered path = path) (fresh : ∀ parent, path ∉ m.registry parent) :
    Kept casefold (m.insertRow path (m.registryParent kind) (m.rootInsertRow casefold kind path)) := by
  have members : ∀ {item}, item ∈ sorted casefold (m.registry (m.registryParent kind) ++ [path]) →
      item ∈ m.registry (m.registryParent kind) ∨ item = path := by
    intro item member
    simpa using sorted_perm.mem_iff.mp member
  rw [insertRow,inserted_rows kept (fresh _)]
  refine kept_rows kept ⟨sorted_ordered,?_,?_⟩ ?_ ?_
  · intro item member
    rcases members member with old | rfl
    · exact (kept.rows _).plain item old
    · exact plain
  · have apart : ∀ item ∈ m.registry (m.registryParent kind), item ∉ [path] := by
      intro item old new
      exact fresh _ (List.mem_singleton.mp new ▸ old)
    exact sorted_perm.nodup_iff.mpr ((kept.rows _).once.append (List.nodup_singleton path) apart)
  · intro other item away member there
    rcases members member with old | rfl
    · exact away (kept.apart there old)
    · exact fresh other there
  · intro _ _
    unfold registryParent
    split <;> simp_all

theorem row_found (kept : Kept casefold m) (sectioned : m.sectionedView = true) (member : path ∈ m.registry (some source)) :
    ∃ row, m.rowOfRootInSection source path = some row ∧ (m.registry (some source))[row]? = some path := by
  have plain := (kept.rows (some source)).plain
  have found : ((m.registry (some source)).findIdx? fun item => item ≠ "" && registered item = registered path).isSome := by
    rw [List.findIdx?_isSome]
    exact List.any_eq_true.mpr ⟨path,member,by simp [registered_named (plain path member)]⟩
  obtain ⟨row,found⟩ := Option.isSome_iff_exists.mp found
  refine ⟨row,?_,?_⟩
  · simpa [rowOfRootInSection,registryParent,sectioned] using found
  · obtain ⟨inside,same,-⟩ := List.findIdx?_eq_some_iff_getElem.mp found
    have alike := of_decide_eq_true (Bool.and_eq_true_iff.mp same).2
    rw [plain _ (List.getElem_mem inside),plain path member] at alike
    rw [List.getElem?_eq_getElem inside,alike]

end Registry

-- The view shows the registry, whose roots are the folders that are held.
structure Mirrored (casefold : String → String) (t : Tree) : Prop where
  kept : Kept casefold t.model
  view : t.view = t.model.registry
  held : ∀ path, (∃ parent, path ∈ t.model.registry parent) ↔ path ∈ t.held

section Moves
variable {new : Finset String}

-- Roots only move to where they belong.
structure Moving (casefold : String → String) (new : Finset String) (t next : Tree) : Prop where
  mirrored : Mirrored casefold next
  sectioned : next.model.sectionedView = t.model.sectionedView
  placed : ∀ {parent path}, path ∈ next.model.registry parent → path ∈ t.model.registry parent ∨
    some (sectionKindInSet path new) = parent

theorem moving_trans {middle : Tree} (one : Moving casefold new t middle) (two : Moving casefold new middle next) :
    Moving casefold new t next := by
  refine ⟨two.mirrored,two.sectioned.trans one.sectioned,fun member => ?_⟩
  rcases two.placed member with before | right
  · exact one.placed before
  · exact .inr right

theorem root_moved (mirrored : Mirrored casefold t) (sectioned : t.model.sectionedView = true)
    (member : path ∈ t.model.registry (some source)) (wrong : sectionKindInSet path new ≠ source) :
    ∃ next, t.moveRootBetweenSections casefold path source (sectionKindInSet path new) = next ∧ Moving casefold new t next ∧
      (next.model.registry (some source)).length < (t.model.registry (some source)).length := by
  obtain ⟨kept,view,held⟩ := mirrored
  obtain ⟨row,found,there⟩ := row_found kept sectioned member
  obtain ⟨inside,-⟩ := List.getElem?_eq_some_iff.mp there
  generalize belongs : sectionKindInSet path new = target at wrong ⊢
  have away : some target ≠ some source := fun same => wrong (Option.some.inj same)
  -- The target's rows, and so the destination, are the same when the root is taken from its section.
  have spot : t.model.rootInsertRow casefold target path = (t.model.removeRow (some source) row).rootInsertRow casefold target path := by
    unfold FolderTreeModel.rootInsertRow FolderTreeModel.rootPathsForSection FolderTreeModel.removeRow
    rw [rows_with]
    simp [FolderTreeModel.registryParent,FolderTreeModel.withRows,sectioned,away]
  have left : ∀ {other item}, item ∈ (t.model.removeRow (some source) row).registry other ↔
      item ∈ t.model.registry other ∧ ¬(other = some source ∧ item = path) := mem_removed (kept.rows _).once there
  have less : Kept casefold (t.model.removeRow (some source) row) := kept_remove kept
  have under : (t.model.removeRow (some source) row).registryParent target = some target := if_pos sectioned
  have fresh : ∀ other, path ∉ (t.model.removeRow (some source) row).registry other :=
    fun other stays => (left.mp stays).2 ⟨kept.apart (left.mp stays).1 member,rfl⟩
  have whole := @kept_insert casefold _ path target less ((kept.rows _).plain path member) fresh
  have bound := @insert_inside casefold _ path target less
  have shorter : (t.model.removeRow (some source) row).registry (some source) = (t.model.registry (some source)).eraseIdx row :=
    rows_with.trans (if_pos rfl)
  rw [under,← spot] at whole bound
  have inserted := fun other item => @mem_inserted _ path item (some target) other _ bound
  refine ⟨_,rfl,?_⟩
  unfold Tree.moveRootBetweenSections
  rw [if_neg (Ne.symm wrong),found]
  simp only [there]
  refine ⟨⟨⟨whole,?_,?_⟩,rfl,?_⟩,?_⟩
  · simp only [Tree.notified]
    rw [view,View.follow,there]
    rfl
  · intro item
    refine Iff.trans ?_ (held item)
    constructor
    · rintro ⟨other,stays⟩
      rcases (inserted other item).mp stays with ⟨-,rfl⟩ | before
      · exact ⟨_,member⟩
      · exact ⟨other,(left.mp before).1⟩
    · rintro ⟨other,before⟩
      by_cases same : other = some source ∧ item = path
      · exact ⟨some target,(inserted _ _).mpr (.inl ⟨rfl,same.2⟩)⟩
      · exact ⟨other,(inserted _ _).mpr (.inr (left.mpr ⟨before,same⟩))⟩
  · intro other item stays
    rcases (inserted other item).mp stays with ⟨rfl,rfl⟩ | before
    · exact .inr (congrArg some belongs)
    · exact .inl (left.mp before).1
  · change (FolderTreeModel.registry (FolderTreeModel.withRows _ _ _) (some source)).length < _
    rw [rows_with,if_neg away.symm,shorter,List.length_eraseIdx_of_lt inside]
    exact Nat.sub_lt (Nat.zero_lt_of_lt inside) Nat.one_pos

-- Each round of the loop takes a row from the section, so that it ends.
theorem roots_move {fuel : Nat} (mirrored : Mirrored casefold t) (sectioned : t.model.sectionedView = true)
    (enough : (t.model.registry (some source)).length < fuel) :
    ∃ next, Tree.moveRoots casefold new source fuel t = some next ∧ Moving casefold new t next ∧
      ∀ path ∈ next.model.registry (some source), sectionKindInSet path new = source := by
  induction fuel generalizing t with
  | zero => exact absurd enough (Nat.not_lt_zero _)
  | succ fuel ih =>
      have rows : t.model.rootPathsForSection casefold source = t.model.registry (some source) := by
        rw [FolderTreeModel.rootPathsForSection,FolderTreeModel.registryParent,if_pos sectioned,items_rows (mirrored.kept.rows _)]
      unfold Tree.moveRoots
      rw [rows]
      cases found : (t.model.registry (some source)).find? fun path => sectionKindInSet path new ≠ source with
      | none =>
          refine ⟨t,rfl,⟨mirrored,rfl,.inl⟩,fun path member => ?_⟩
          by_contra wrong
          exact List.find?_eq_none.mp found path member (decide_eq_true wrong)
      | some path =>
          have wrong : sectionKindInSet path new ≠ source := by simpa using List.find?_some found
          obtain ⟨middle,moved,moving,shorter⟩ := root_moved mirrored sectioned (List.mem_of_find?_eq_some found) wrong
          have ready := moving.sectioned.trans sectioned
          obtain ⟨next,ended,rest,right⟩ := ih moving.mirrored ready (by omega)
          exact ⟨next,(congrArg (Tree.moveRoots casefold new source fuel) moved).trans ended,moving_trans moving rest,right⟩

end Moves

structure Orderly (casefold : String → String) (sectionedView : Bool) (t : Tree) : Prop where
  mirrored : Mirrored casefold t
  mode : t.model.sectionedView = sectionedView
  sections : sectionedView = true → ∀ kind, ∀ path ∈ t.model.registry (some kind), t.model.sectionKind path = kind

theorem orderly_new : Orderly casefold sectionedView (Tree.new sectionedView) := by
  have none : ∀ path parent, path ∉ (Tree.new sectionedView).model.registry parent := fun path parent => List.not_mem_nil
  refine ⟨⟨⟨fun _ => ⟨.nil,fun path member => absurd member (none path _),.nil⟩,?_,?_⟩,rfl,?_⟩,rfl,?_⟩
  · intro parent other path member
    exact absurd member (none path parent)
  · intro parent path member
    exact absurd member (none path parent)
  · intro path
    constructor
    · rintro ⟨parent,member⟩
      exact absurd member (none path parent)
    · intro member
      exact absurd member (Finset.notMem_empty path)
  · intro _ kind path member
    exact absurd member (none path _)

theorem orderly_added (orderly : Orderly casefold sectionedView t) (candidate : RootCandidate) :
    Orderly casefold sectionedView (t.addRootFolder casefold candidate) := by
  obtain ⟨⟨kept,view,held⟩,mode,sections⟩ := orderly
  unfold Tree.addRootFolder
  dsimp only
  split
  · exact ⟨⟨kept,view,held⟩,mode,sections⟩
  split
  · exact ⟨⟨kept,view,held⟩,mode,sections⟩
  rename_i absent
  have plain : registered (registered candidate.path) = registered candidate.path := registered_again
  generalize registered candidate.path = path at absent plain ⊢
  have fresh : ∀ parent, path ∉ t.model.registry parent := by
    intro parent member
    apply absent
    rw [FolderTreeModel.hasRootFolder,plain]
    exact decide_eq_true ((roots_iff kept).mpr ⟨parent,member⟩)
  have whole := @kept_insert casefold t.model path (t.model.sectionKind path) kept plain fresh
  have inside := @insert_inside casefold t.model path (t.model.sectionKind path) kept
  have members := fun other item => @mem_inserted t.model path item _ other _ inside
  refine ⟨⟨whole,?_,?_⟩,mode,?_⟩
  · simp only [Tree.notified]
    rw [view,View.follow,shown_registry whole,FolderTreeModel.insertRow,rows_with,if_pos rfl,List.getElem?_insertIdx_self,
      if_pos inside]
    rfl
  · intro item
    constructor
    · rintro ⟨parent,member⟩
      rcases (members _ _).mp member with ⟨-,rfl⟩ | before
      · exact Finset.mem_insert_self _ _
      · exact Finset.mem_insert_of_mem ((held item).mp ⟨parent,before⟩)
    · intro member
      rcases Finset.mem_insert.mp member with rfl | before
      · exact ⟨_,(members _ _).mpr (.inl ⟨rfl,rfl⟩)⟩
      · obtain ⟨parent,there⟩ := (held item).mpr before
        exact ⟨parent,(members _ _).mpr (.inr there)⟩
  · intro sectioned kind item member
    rcases (members _ _).mp member with ⟨same,rfl⟩ | before
    · have parent : t.model.registryParent (t.model.sectionKind item) = some (t.model.sectionKind item) := if_pos (mode.trans sectioned)
      exact (Option.some.inj (same.trans parent)).symm
    · exact sections sectioned kind item before

theorem orderly_deleted (orderly : Orderly casefold sectionedView t) (shown : (t.view parent)[row]? = some path) :
    Orderly casefold sectionedView (t.deleteFolder casefold row path) := by
  obtain ⟨⟨kept,view,held⟩,mode,sections⟩ := orderly
  unfold Tree.deleteFolder
  dsimp only
  split
  · exact ⟨⟨kept,view,held⟩,mode,sections⟩
  have sectioned : sectionedView = true := by simp_all
  rw [view] at shown
  have member := List.mem_of_getElem? shown
  have under : some (t.model.sectionKind path) = parent := by
    obtain ⟨kind,rfl⟩ := Option.isSome_iff_exists.mp (((kept.sectioned member).trans mode).trans sectioned)
    rw [sections sectioned kind path member]
  rw [under]
  have members := fun other item => @mem_removed t.model path item parent other row (kept.rows _).once shown
  refine ⟨⟨kept_remove kept,?_,?_⟩,mode,?_⟩
  · simp only [Tree.notified]
    rw [view]
    rfl
  · intro item
    constructor
    · rintro ⟨other,stays⟩
      obtain ⟨before,differs⟩ := (members _ _).mp stays
      refine Finset.mem_erase.mpr ⟨?_,(held item).mp ⟨other,before⟩⟩
      rintro rfl
      exact differs ⟨kept.apart before member,rfl⟩
    · intro stays
      obtain ⟨differs,before⟩ := Finset.mem_erase.mp stays
      obtain ⟨other,there⟩ := (held item).mpr before
      exact ⟨other,(members _ _).mpr ⟨there,fun same => differs same.2⟩⟩
  · intro _ kind item stays
    exact sections sectioned kind item ((members _ _).mp stays).1

theorem moves_end {new : Finset String} (orderly : Orderly casefold sectionedView t) :
    ∃ next, t.moveRootsForMobileFolderPaths casefold new = some next ∧
      Orderly casefold sectionedView {next with model:={next.model with mobileFolderPaths:=new}} := by
  have renamed : ∀ {next}, Mirrored casefold next → Mirrored casefold {next with model:={next.model with mobileFolderPaths:=new}} :=
    fun ⟨kept,view,held⟩ => ⟨⟨kept.rows,kept.apart,kept.sectioned⟩,view,held⟩
  cases sectioned : t.model.sectionedView with
  | false =>
      refine ⟨t,by simp [Tree.moveRootsForMobileFolderPaths,sectioned],renamed orderly.mirrored,orderly.mode,fun mode => ?_⟩
      exact absurd (sectioned.symm.trans (orderly.mode.trans mode)) Bool.false_ne_true
  | true =>
      obtain ⟨one,ended,moving,first⟩ := @roots_move casefold t .localFolders new _ orderly.mirrored sectioned (Nat.lt_succ_self _)
      obtain ⟨two,ended',moving',second⟩ := @roots_move casefold one .mobileFolders new _ moving.mirrored
        (moving.sectioned.trans sectioned) (Nat.lt_succ_self _)
      refine ⟨two,by simp [Tree.moveRootsForMobileFolderPaths,sectioned,ended,ended'],renamed moving'.mirrored,
        (moving'.sectioned.trans moving.sectioned).trans orderly.mode,?_⟩
      intro _ kind path member
      cases kind with
      | localFolders =>
          -- The second loop moves only roots that belong here into the first section.
          rcases moving'.placed member with before | right
          · exact first path before
          · exact Option.some.inj right
      | mobileFolders => exact second path member

theorem call_orderly (orderly : Orderly casefold sectionedView t) (call : Call) :
    ∃ next, t.call casefold call = some next ∧ Orderly casefold sectionedView next := by
  cases call with
  | addRootFolder candidates =>
      refine ⟨_,rfl,?_⟩
      induction candidates generalizing t with
      | nil => exact orderly
      | cons candidate rest ih => exact ih (orderly_added orderly candidate)
  | deleteFolder parent row =>
      refine ⟨_,rfl,?_⟩
      cases shown : (t.view parent)[row]? with
      | none => exact orderly
      | some path => exact orderly_deleted orderly shown
  | setMobileFolderPaths folderPaths =>
      change ∃ next, t.setMobileFolderPaths casefold folderPaths = some next ∧ _
      unfold Tree.setMobileFolderPaths
      dsimp only
      split
      · exact ⟨t,rfl,orderly⟩
      · obtain ⟨next,ended,right⟩ := @moves_end casefold t _ (folderPaths.map registered).toFinset orderly
        exact ⟨_,by rw [ended]; rfl,right⟩

theorem run_orderly (orderly : Orderly casefold sectionedView t) (calls : List Call) :
    ∃ next, t.run casefold calls = some next ∧ Orderly casefold sectionedView next := by
  induction calls generalizing t with
  | nil => exact ⟨t,rfl,orderly⟩
  | cons call rest ih =>
      obtain ⟨middle,called,kept⟩ := call_orderly orderly call
      obtain ⟨next,ran,last⟩ := ih kept
      exact ⟨next,by simpa [Tree.run,called] using ran,last⟩

-- A root stands where its kind puts it.
theorem roots_placed (orderly : Orderly casefold sectionedView t) : path ∈ t.model.registry parent ↔
    path ∈ t.held ∧ t.model.registryParent (t.model.sectionKind path) = parent := by
  obtain ⟨⟨kept,-,held⟩,mode,sections⟩ := orderly
  have right : ∀ {other}, path ∈ t.model.registry other → t.model.registryParent (t.model.sectionKind path) = other := by
    intro other member
    have sectioned := kept.sectioned member
    rw [FolderTreeModel.registryParent,← sectioned]
    cases other with
    | none => rfl
    | some kind => exact congrArg some (sections (mode.symm.trans sectioned.symm) kind path member)
  rw [← held path]
  constructor
  · exact fun member => ⟨⟨parent,member⟩,right member⟩
  · rintro ⟨⟨other,member⟩,rfl⟩
    rwa [right member]

structure Followed (casefold : String → String) (t : Tree) : Prop where
  shown : t.view = t.model.shownRows casefold
  ordered : ∀ parent, (t.view parent).Pairwise fun one two => casefold one ≤ casefold two
  once : (t.model.allRootPaths casefold).Nodup
  roots : ∀ path, path ∈ t.model.allRootPaths casefold ↔ path ∈ t.held
  sections : t.model.sectionedView = true → ∀ kind, ∀ path ∈ t.view (some kind), t.model.sectionKind path = kind

-- After any calls a view that only follows what is announced shows the rows that the model
-- gives: the folders that are held, sorted, each once and in the section of its kind.
theorem tree_followed (casefold : String → String) (sectionedView : Bool) (calls : List Call) :
    ∃ t, (Tree.new sectionedView).run casefold calls = some t ∧ Followed casefold t := by
  obtain ⟨t,ran,⟨kept,view,held⟩,mode,sections⟩ := run_orderly (@orderly_new casefold sectionedView) calls
  refine ⟨t,ran,?_,?_,roots_once kept,fun path => (roots_iff kept).trans (held path),?_⟩
  · rw [view,shown_registry kept]
  · rw [view]
    exact fun parent => (kept.rows parent).ordered
  · rw [view,mode]
    exact sections

-- Whatever calls led there, the same folders and the same phones give the same rows. Paths
-- of one casefold would stand in the order they came.
theorem order_forgotten {calls others : List Call} {one two : Tree}
    (ran : (Tree.new sectionedView).run casefold calls = some one) (ran' : (Tree.new sectionedView).run casefold others = some two)
    (folders : one.held = two.held) (phones : one.model.mobileFolderPaths = two.model.mobileFolderPaths)
    (apart : Set.InjOn casefold one.held) : one.view = two.view := by
  obtain ⟨_,reached,first⟩ := run_orderly (@orderly_new casefold sectionedView) calls
  obtain ⟨_,reached',second⟩ := run_orderly (@orderly_new casefold sectionedView) others
  cases ran.symm.trans reached
  cases ran'.symm.trans reached'
  funext parent
  have rows := first.mirrored.kept.rows parent
  have rows' := second.mirrored.kept.rows parent
  have alike : (one.model.registry parent).Perm (two.model.registry parent) := by
    refine (List.perm_ext_iff_of_nodup rows.once rows'.once).mpr fun path => ?_
    simp only [roots_placed first,roots_placed second,FolderTreeModel.registryParent,FolderTreeModel.sectionKind,
      folders,phones,first.mode,second.mode]
  rw [first.mirrored.view,second.mirrored.view]
  refine alike.eq_of_pairwise (fun path other here there below above => ?_) rows.ordered rows'.ordered
  have held := ((roots_placed second).mp there).1
  exact apart ((roots_placed first).mp here).1 (folders ▸ held) (le_antisymm below above)

def sampleRoot (path : String) : RootCandidate := ⟨path,true,true⟩

theorem roots_swapped : ∃ one two,
    (Tree.new true).run id [.setMobileFolderPaths ["/b"],.addRootFolder (["/b","/a","/c"].map sampleRoot)] = some one ∧
    (Tree.new true).run id [.addRootFolder (["/b"].map sampleRoot),.setMobileFolderPaths ["/b"],
      .addRootFolder (["/c","/a"].map sampleRoot)] = some two ∧ one.view = two.view := by
  have ran := fun calls => @Option.some_get Tree ((Tree.new true).run id calls)
  refine ⟨_,_,(ran _ (by decide +kernel)).symm,(ran _ (by decide +kernel)).symm,?_⟩
  exact order_forgotten (ran _ _).symm (ran _ _).symm (by decide +kernel) (by decide +kernel) fun _ _ _ _ same => same

end ImageSearch.FolderTree
