import ImageSearch.FolderEvents
import Mathlib.Data.List.Infix

namespace ImageSearch.FolderPaths
open ReferentialStore FileCatalog FolderEvents

variable {catalog : Catalog} {path one two : String}

def places (catalog : Catalog) : List (Nat × String) := catalog.folders.rows.map fun folder => (folder.id,folder.path)

def directory (folderPath : String) : List Char := (normalizedFolderPath folderPath).toList

def Contains (folderPath path : String) : Prop := directory folderPath <+: path.toList

instance : Decidable (Contains one path) := inferInstanceAs (Decidable (_ <+: _))

def Deepest (places : List (Nat × String)) (folderId : Nat) (path : String) : Prop :=
  ∃ place ∈ places, place.1 = folderId ∧ Contains place.2 path ∧
    ∀ other ∈ places, Contains other.2 path → (directory other.2).length ≤ (directory place.2).length

theorem directory_cases (folderPath : String) :
    (folderPath.toList.getLast? = some '/' ∧ directory folderPath = folderPath.toList) ∨
    (folderPath.toList.getLast? ≠ some '/' ∧ directory folderPath = folderPath.toList ++ ['/']) := by
  unfold directory normalizedFolderPath
  split
  · rename_i ends
    exact .inl ⟨ends,rfl⟩
  · rename_i ends
    exact .inr ⟨ends,by rw [String.toList_append]; rfl⟩

theorem directory_ends : (directory one).getLast? = some '/' := by
  rcases directory_cases one with ⟨ends,same⟩ | ⟨-,same⟩
  · rw [same]
    exact ends
  · rw [same,List.getLast?_concat]

theorem path_directory : one.toList <+: directory one := by
  rcases directory_cases one with ⟨-,same⟩ | ⟨-,same⟩
  · exact same ▸ List.prefix_rfl
  · rw [same]
    exact List.prefix_append _ _

theorem contains_nested (first : Contains one path) (second : Contains two path)
    (shorter : (directory one).length ≤ (directory two).length) : directory one <+: directory two :=
  List.prefix_of_prefix_length_le first second shorter

theorem contains_same (first : Contains one path) (second : Contains two path)
    (same : (directory one).length = (directory two).length) : directory one = directory two :=
  (contains_nested first second same.le).eq_of_length same

theorem place_same {one two : Nat × String} (member : one ∈ places catalog) (member' : two ∈ places catalog)
    (same : one.1 = two.1) : one = two := by
  obtain ⟨first,there,rfl⟩ := List.mem_map.mp member
  obtain ⟨second,there',rfl⟩ := List.mem_map.mp member'
  have equal : first = second := List.inj_on_of_nodup_map catalog.folders.distinct there there' same
  rw [equal]

theorem deepest_unique {places : List (Nat × String)} {a b : Nat}
    (distinct : ∀ one ∈ places, ∀ two ∈ places, directory one.2 = directory two.2 → one = two)
    (first : Deepest places a path) (second : Deepest places b path) : a = b := by
  obtain ⟨one,member,rfl,inside,deepest⟩ := first
  obtain ⟨two,member',rfl,inside',deepest'⟩ := second
  have same := Nat.le_antisymm (deepest' one member inside) (deepest two member' inside')
  rw [distinct one member two member' (contains_same inside inside' same)]

theorem entry_nested {name : List Char} (plain : '/' ∉ name) (within : directory one <+: directory two ++ name) :
    (directory one).length ≤ (directory two).length := by
  by_contra longer
  obtain ⟨rest,whole⟩ : directory two <+: directory one :=
    List.prefix_of_prefix_length_le (List.prefix_append _ _) within (by omega)
  have more : rest <+: name := by
    rw [← whole,List.prefix_append_right_inj] at within
    exact within
  have some : rest ≠ [] := by
    rintro rfl
    rw [List.append_nil] at whole
    rw [whole] at longer
    omega
  have last := @directory_ends one
  rw [← whole,List.getLast?_append_of_ne_nil _ some] at last
  exact plain (more.subset (List.mem_of_getLast? last))

theorem nested_longer (first : directory one <+: directory two) (longer : (directory one).length < (directory two).length) :
    one.length < two.length := by
  have shorter : one.toList.length ≤ (directory one).length := path_directory.length_le
  rw [← String.length_toList,← String.length_toList]
  rcases directory_cases two with ⟨-,same⟩ | ⟨open',same⟩
  · rw [same] at longer
    omega
  · rw [same] at first longer
    rw [List.length_append,List.length_singleton] at longer
    have inside : directory one <+: two.toList :=
      List.prefix_of_prefix_length_le first (List.prefix_append _ _) (by omega)
    by_contra short
    have whole : directory one = two.toList := inside.eq_of_length (by omega)
    exact open' (whole ▸ directory_ends)

-- What stands before a closing % matches every text that starts with it.
theorem like_self (start rest : List Char) : like (start ++ ['%']) (start ++ rest) = true := by
  induction start with
  | nil =>
      rw [List.nil_append,List.nil_append,like,List.any_eq_true]
      exact ⟨[],(List.mem_tails _ _).mpr List.nil_suffix,rfl⟩
  | cons c start ih =>
      by_cases percent : c = '%'
      · subst percent
        rw [List.cons_append,List.cons_append,like,List.any_eq_true]
        exact ⟨start ++ rest,(List.mem_tails _ _).mpr (List.suffix_cons _ _),ih⟩
      · by_cases underscore : c = '_'
        · subst underscore
          rw [List.cons_append,List.cons_append,like]
          exact ih
        · rw [List.cons_append,List.cons_append,like]
          · rw [ih]
            simp
          · exact percent
          · exact underscore

theorem like_contains (inside : Contains one path) : like (one.toList ++ ['%']) path.toList = true := by
  obtain ⟨rest,whole⟩ := path_directory.trans inside
  rw [← whole]
  exact like_self _ _

theorem head_longest {Row : Type*} {size : Row → Nat} {rows : List Row} {row : Row}
    (first : (rows.insertionSort fun one two => size two ≤ size one).head? = some row) :
    row ∈ rows ∧ ∀ other ∈ rows, size other ≤ size row := by
  have total : Std.Total fun one two : Row => size two ≤ size one := ⟨fun one two => Nat.le_total _ _⟩
  have trans : IsTrans Row fun one two => size two ≤ size one := ⟨fun _ _ _ first second => second.trans first⟩
  have sorted := List.pairwise_insertionSort (fun one two : Row => size two ≤ size one) rows
  cases listed : rows.insertionSort fun one two => size two ≤ size one with
  | nil =>
      rw [listed] at first
      cases first
  | cons head rest =>
      rw [listed] at first sorted
      cases first
      refine ⟨(List.mem_insertionSort _).mp (listed ▸ List.mem_cons_self),?_⟩
      intro other member
      have there := (List.mem_insertionSort fun one two : Row => size two ≤ size one).mpr member
      rw [listed] at there
      rcases List.mem_cons.mp there with rfl | later
      · exact Nat.le_refl _
      · exact (List.pairwise_cons.mp sorted).1 other later

theorem match_longest {folder : Folder} (matched : matchParentFolder catalog path = some folder) :
    folder ∈ catalog.folders.rows ∧ like (folder.path.toList ++ ['%']) (forwardSlashes path).toList = true ∧
    ∀ other ∈ catalog.folders.rows, like (other.path.toList ++ ['%']) (forwardSlashes path).toList = true →
      other.path.length ≤ folder.path.length := by
  obtain ⟨listed,longest⟩ := head_longest matched
  obtain ⟨member,likely⟩ := List.mem_filter.mp listed
  refine ⟨member,likely,?_⟩
  intro other there alike
  exact longest other (List.mem_filter.mpr ⟨there,alike⟩)

theorem match_none (unmatched : matchParentFolder catalog path = none) :
    ∀ folder ∈ catalog.folders.rows, like (folder.path.toList ++ ['%']) (forwardSlashes path).toList = false := by
  intro folder member
  by_contra alike
  have listed : folder ∈ catalog.folders.rows.filter fun folder =>
      like (folder.path.toList ++ ['%']) (forwardSlashes path).toList :=
    List.mem_filter.mpr ⟨member,by simpa using alike⟩
  have here := (List.mem_insertionSort fun one two : Folder => two.path.length ≤ one.path.length).mpr listed
  have empty := List.head?_eq_none_iff.mp unmatched
  rw [empty] at here
  cases here

-- A folder that contains the path matches it, and so does the deepest one, which is the
-- longest, unless a folder matches that does not contain it.
theorem match_deepest {folder : Folder} (matched : matchParentFolder catalog path = some folder)
    (honest : ∀ other ∈ catalog.folders.rows, like (other.path.toList ++ ['%']) (forwardSlashes path).toList = true →
      Contains other.path (forwardSlashes path)) : Deepest (places catalog) folder.id (forwardSlashes path) := by
  obtain ⟨member,likely,longest⟩ := match_longest matched
  have inside := honest folder member likely
  refine ⟨(folder.id,folder.path),List.mem_map.mpr ⟨folder,member,rfl⟩,rfl,inside,?_⟩
  intro other there within
  obtain ⟨row,listed,rfl⟩ := List.mem_map.mp there
  by_contra longer
  have longer : (directory folder.path).length < (directory row.path).length := Nat.not_le.mp longer
  have shorter := longest row listed (like_contains within)
  exact absurd shorter (Nat.not_le.mpr (nested_longer (contains_nested inside within longer.le) longer))

section Traversals
variable {name folderPath : String}

theorem rstrip_open {text : List Char} (ends : text.getLast? ≠ some '/') : rstrip (fun c => c = '/') text = text := by
  unfold rstrip
  cases turned : text.reverse with
  | nil => rw [List.reverse_eq_nil_iff.mp turned]; rfl
  | cons last rest =>
      have final : text.getLast? = some last := by
        rw [← List.head?_reverse,turned]
        rfl
      have other : last ≠ '/' := by
        intro same
        rw [same] at final
        exact ends final
      rw [List.dropWhile_cons_of_neg (by simpa using other),← turned,List.reverse_reverse]

theorem rstrip_closed {text : List Char} (ends : text.getLast? ≠ some '/') :
    rstrip (fun c => c = '/') (text ++ ['/']) = text := by
  have turned : rstrip (fun c => c = '/') (text ++ ['/']) = rstrip (fun c => c = '/') text := by
    unfold rstrip
    rw [List.reverse_append,List.reverse_singleton,List.singleton_append,List.dropWhile_cons_of_pos (by decide)]
  rw [turned,rstrip_open ends]

theorem slashes_unix {text : List Char} (unix : '\\' ∉ text) : (text.map fun c => if c = '\\' then '/' else c) = text := by
  refine (List.map_congr_left fun c member => ?_).trans (List.map_id text)
  exact if_neg fun same : c = '\\' => unix (same ▸ member)

theorem entry_open {parent : String} (named : name ≠ "") (inner : '/' ∉ name.toList) :
    (entryPath parent name).toList.getLast? ≠ some '/' := by
  intro ends
  unfold entryPath at ends
  rw [String.toList_append,List.getLast?_append_of_ne_nil _ (fun empty => named (String.toList_eq_nil_iff.mp empty))] at ends
  exact inner (List.mem_of_getLast? ends)

theorem open_directory (ends : one.toList.getLast? ≠ some '/') : directory one = one.toList ++ ['/'] := by
  rcases directory_cases one with ⟨closed,-⟩ | ⟨-,same⟩
  · exact absurd closed ends
  · exact same

theorem variants_directory (named : two ≠ "") (ends : two.toList.getLast? ≠ some '/') (unix : '\\' ∉ two.toList)
    (same : directory one = directory two) : one ∈ folderPathVariants (normalizedFolderPath two) := by
  have whole : (normalizedFolderPath two).toList = two.toList ++ ['/'] := open_directory ends
  have clean : '\\' ∉ (normalizedFolderPath two).toList := by
    rw [whole,List.mem_append]
    exact fun there => there.elim unix (by decide)
  have spelt : one = String.ofList two.toList ∨ one = String.ofList (two.toList ++ ['/']) := by
    rw [open_directory ends] at same
    rcases directory_cases one with ⟨-,text⟩ | ⟨-,text⟩
    · exact .inr (by rw [← same,text,String.ofList_toList])
    · rw [text] at same
      exact .inl (by rw [← List.append_cancel_right same,String.ofList_toList])
  unfold folderPathVariants
  rw [slashes_unix clean,whole]
  dsimp only
  split
  · rename_i root
    have empty : two.toList = [] := List.append_left_eq_self.mp root
    exact absurd (String.toList_eq_nil_iff.mp empty) named
  · rw [rstrip_closed ends]
    rcases spelt with rfl | rfl
    · exact List.mem_cons_self
    · exact List.mem_cons_of_mem _ List.mem_cons_self

theorem unregistered (none : getFolderByPath catalog folderPath = none) :
    ∀ place ∈ places catalog, place.2 ∉ folderPathVariants folderPath := by
  intro place there variant
  obtain ⟨folder,member,rfl⟩ := List.mem_map.mp there
  have listed : folder ∈ catalog.folders.rows.filter fun folder => folder.path ∈ folderPathVariants folderPath :=
    List.mem_filter.mpr ⟨member,decide_eq_true variant⟩
  have empty := List.head?_eq_none_iff.mp none
  have here := (List.mem_insertionSort fun one two : Folder => one.path.length ≤ two.path.length).mpr listed
  rw [empty] at here
  cases here

-- The folder that is scanned is the deepest one of each file that the traversal comes to.
theorem traverse_deepest {names : List String} (unix : '\\' ∉ folderPath.toList)
    (plain : ∀ name ∈ names, '\\' ∉ name.toList) (found : traverse catalog folderPath names = some path) :
    '\\' ∉ path.toList ∧ Contains folderPath path ∧ ∀ place ∈ places catalog, Contains place.2 path →
      (directory place.2).length ≤ (directory folderPath).length := by
  induction names generalizing folderPath with
  | nil => cases found
  | cons name names ih =>
      have entry : (entryPath folderPath name).toList = directory folderPath ++ name.toList := String.toList_append
      have clean : '\\' ∉ (entryPath folderPath name).toList := by
        rw [entry,List.mem_append]
        rintro (before | inside)
        · rcases directory_cases folderPath with ⟨-,same⟩ | ⟨-,same⟩
          · exact unix (same ▸ before)
          · rw [same,List.mem_append] at before
            exact unix (before.resolve_right (by decide))
        · exact plain name List.mem_cons_self inside
      unfold FolderEvents.traverse at found
      split at found
      · cases found
      · rename_i usable
        simp only [Bool.or_eq_true,decide_eq_true_eq,not_or] at usable
        obtain ⟨⟨-,named⟩,inner⟩ := usable
        split at found
        · cases found
          refine ⟨clean,?_,?_⟩
          · unfold Contains
            rw [entry]
            exact List.prefix_append _ _
          · intro place _ inside
            unfold Contains at inside
            rw [entry] at inside
            exact entry_nested inner inside
        · split at found
          · cases found
          · rename_i fresh
            obtain ⟨unix',inside,deepest⟩ := ih clean (fun name member => plain name (List.mem_cons_of_mem _ member)) found
            have nested : directory folderPath <+: directory (entryPath folderPath name) := by
              refine List.IsPrefix.trans ?_ path_directory
              rw [entry]
              exact List.prefix_append _ _
            refine ⟨unix',nested.trans inside,?_⟩
            intro place there within
            have shorter := deepest place there within
            rcases shorter.eq_or_lt with equal | strictly
            · have same := contains_same within inside equal
              have some : entryPath folderPath name ≠ "" := by
                intro empty
                rw [empty,eq_comm,String.toList_empty,List.append_eq_nil_iff] at entry
                exact named (String.toList_eq_nil_iff.mp entry.2)
              exact absurd (variants_directory some (entry_open named inner) clean same) (unregistered fresh place there)
            · have whole := contains_nested within inside shorter
              rw [open_directory (entry_open named inner)] at whole strictly
              rw [List.length_append,List.length_singleton] at strictly
              have before : directory place.2 <+: (entryPath folderPath name).toList :=
                List.prefix_of_prefix_length_le whole (List.prefix_append _ _) (by omega)
              exact entry_nested inner (entry ▸ before)

end Traversals

end ImageSearch.FolderPaths
