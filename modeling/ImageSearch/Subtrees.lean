import ImageSearch.FolderPaths
import ImageSearch.Wildcards
import Mathlib.Data.List.DropRight

namespace ImageSearch.Subtrees
open ReferentialStore FileCatalog FolderEvents FolderPaths Wildcards

variable {catalog : Catalog} {path row : String} {pattern text : List Char}

def getDirectChildFiles (catalog : Catalog) (subtree : String) : List File :=
  let subtree := normalizedFolderPath (forwardSlashes subtree)
  catalog.files.rows.filter fun file => like (subtree.toList ++ ['%']) file.path.toList &&
    !like (subtree.toList ++ ['%','/','%']) file.path.toList

-- A path without the slashes that end it, the directory's own start of a path below it, and
-- this start as the file lookups spell it.
def place (path : String) : List Char := rstrip (fun c => c = '/') (forwardSlashes path).toList

def opening (path : String) : List Char := place path ++ ['/']

def spelling (path : String) : List Char := (normalizedFolderPath (forwardSlashes path)).toList

def components (text : List Char) : List (List Char) := text.splitOn '/'

def Within (path row : String) : Prop := components (place path) <+: components row.toList

def Below (path row : String) : Prop := Within path row ∧ components row.toList ≠ components (place path)

def Directly (path row : String) : Prop := ∃ name, components row.toList = components (place path) ++ [name]

section Components
variable {start : List Char}

theorem components_append (start rest : List Char) :
    components (start ++ '/' :: rest) = components start ++ components rest := List.splitOn_append_cons_self _ _

theorem components_some : components text ≠ [] := List.splitOn_ne_nil _ _

theorem joined_components : ['/'].intercalate (components text) = text := List.intercalate_splitOn '/'

theorem components_injective (same : components start = components text) : start = text := by
  rw [← @joined_components start,← @joined_components text,same]

theorem components_joined {one two : List (List Char)} (first : one ≠ []) (second : two ≠ []) :
    ['/'].intercalate (one ++ two) = ['/'].intercalate one ++ '/' :: ['/'].intercalate two := by
  induction one with
  | nil => exact absurd rfl first
  | cons name one ih =>
      by_cases last : one = []
      · subst last
        rw [List.singleton_append,List.intercalate_cons_of_ne_nil second,List.intercalate_singleton,List.append_assoc]
        rfl
      · have more : one ++ two ≠ [] := fun empty => last (List.append_eq_nil_iff.mp empty).1
        rw [List.cons_append,List.intercalate_cons_of_ne_nil more,ih last,List.intercalate_cons_of_ne_nil last]
        simp only [List.append_assoc]

theorem components_within : components start <+: components text ↔ start = text ∨ start ++ ['/'] <+: text := by
  constructor
  · rintro ⟨rest,whole⟩
    by_cases empty : rest = []
    · rw [empty,List.append_nil] at whole
      exact .inl (components_injective whole)
    · right
      have joined := congrArg (List.intercalate ['/']) whole
      rw [components_joined components_some empty,joined_components,joined_components] at joined
      exact ⟨_,by rw [← joined,List.append_assoc]; rfl⟩
  · rintro (rfl | ⟨rest,rfl⟩)
    · exact List.prefix_rfl
    · rw [List.append_assoc,List.singleton_append,components_append]
      exact List.prefix_append _ _

theorem within_iff : Within path row ↔ row.toList = place path ∨ opening path <+: row.toList := by
  unfold Within opening
  rw [components_within]
  exact or_congr_left eq_comm

theorem opening_longer (inside : opening path <+: row.toList) : row.toList ≠ place path := by
  intro same
  have longer := inside.length_le
  rw [same] at longer
  unfold opening at longer
  rw [List.length_append,List.length_singleton] at longer
  omega

theorem below_iff : Below path row ↔ opening path <+: row.toList := by
  unfold Below
  rw [within_iff]
  constructor
  · rintro ⟨same | inside,other⟩
    · exact absurd (congrArg components same) other
    · exact inside
  · intro inside
    exact ⟨.inr inside,fun same => opening_longer inside (components_injective same)⟩

theorem directly_iff : Directly path row ↔ ∃ name, '/' ∉ name ∧ row.toList = opening path ++ name := by
  unfold Directly opening
  constructor
  · rintro ⟨name,whole⟩
    have joined := congrArg (List.intercalate ['/']) whole
    rw [components_joined components_some (List.cons_ne_nil _ _),joined_components,joined_components,
      List.intercalate_singleton] at joined
    refine ⟨name,?_,by rw [joined,List.append_assoc]; rfl⟩
    intro slash
    have two : (components row.toList).length = (components (place path)).length + (components name).length := by
      rw [joined,components_append,List.length_append]
    rw [whole,List.length_append,List.length_singleton] at two
    obtain ⟨before,after,rfl⟩ := List.append_of_mem slash
    rw [components_append,List.length_append] at two
    have one : (components before).length ≠ 0 := fun none => components_some (List.length_eq_zero_iff.mp none)
    have one' : (components after).length ≠ 0 := fun none => components_some (List.length_eq_zero_iff.mp none)
    omega
  · rintro ⟨name,plain,whole⟩
    refine ⟨name,?_⟩
    rw [whole,List.append_assoc,List.singleton_append,components_append]
    exact congrArg _ (List.splitOn_eq_singleton plain)

end Components

-- SQLite's pattern symbols; letters stand for those of either case.
def token (c : Char) : Token Char := if c = '%' then .many else if c = '_' then .any else .exactly c

def Caseless (a b : Char) : Prop := a.toLower = b.toLower

def Resembling (pattern text : List Char) : Prop := Resembles Caseless (pattern.map token) text

theorem like_matches : like pattern text = true ↔ Matches Caseless (pattern.map token) text := by
  induction pattern generalizing text with
  | nil =>
      rw [like,List.isEmpty_iff,List.map_nil]
      constructor
      · rintro rfl
        exact .nil
      · intro matched
        cases matched
        rfl
  | cons c pattern ih =>
      by_cases percent : c = '%'
      · subst percent
        rw [like,List.any_eq_true,List.map_cons]
        unfold token
        rw [if_pos rfl,matches_many]
        refine exists_congr fun rest => ?_
        rw [List.mem_tails,ih]
        rfl
      · by_cases underscore : c = '_'
        · subst underscore
          rw [List.map_cons]
          have any : token '_' = .any := rfl
          rw [any]
          cases text with
          | nil =>
              rw [like]
              · exact iff_of_false Bool.false_ne_true fun matched => by cases matched
              · exact percent
          | cons d text =>
              rw [like,ih]
              exact ⟨.any,fun matched => by cases matched; assumption⟩
        · rw [List.map_cons]
          have exactly : token c = .exactly c := by
            unfold token
            rw [if_neg percent,if_neg underscore]
          rw [exactly]
          cases text with
          | nil =>
              rw [like]
              · exact iff_of_false Bool.false_ne_true fun matched => by cases matched
              · exact percent
          | cons d text =>
              rw [like,Bool.and_eq_true,decide_eq_true_eq,ih]
              · exact ⟨fun same => .exactly same.1 same.2,fun matched => by cases matched; exact ⟨‹_›,‹_›⟩⟩
              · exact percent
              · exact underscore

theorem slash_alone (b : Char) : Caseless '/' b ↔ b = '/' := by
  constructor
  · intro same
    unfold Caseless at same
    rw [show '/'.toLower = '/' by decide] at same
    unfold Char.toLower at same
    split at same
    · rename_i capital
      have value := congrArg (fun c => c.val.toNat) same
      simp at value
      simp [UInt32.le_iff_toNat_le] at capital
      omega
    · exact same.symm
  · rintro rfl
    rfl

theorem token_reads (c : Char) : token c = .exactly c ∨ token c = .any ∨ token c = .many := by
  unfold token
  split
  · exact .inr (.inr rfl)
  · split
    · exact .inr (.inl rfl)
    · exact .inl rfl

theorem token_slashes : (pattern.map token).count (.exactly '/') = pattern.count '/' := by
  induction pattern with
  | nil => rfl
  | cons c pattern ih =>
      rw [List.map_cons,List.count_cons,List.count_cons,ih]
      by_cases slash : c = '/'
      · subst slash
        rfl
      · have other : token c ≠ .exactly '/' := by
          intro same
          rcases token_reads c with reads | reads | reads
          · rw [reads] at same
            exact slash (Token.exactly.inj same)
          · rw [reads] at same
            cases same
          · rw [reads] at same
            cases same
        simp [slash,other]

theorem like_opening : like (pattern ++ ['%']) text = true ↔ Resembling pattern text := by
  rw [like_matches,List.map_append]
  exact matches_open

theorem like_deeper : like (pattern ++ ['%','/','%']) text = true ↔
    ∃ start rest, text = start ++ rest ∧ Matches Caseless (pattern.map token) start ∧ '/' ∈ rest := by
  rw [like_matches,List.map_append]
  exact matches_within slash_alone

theorem resembling_self (inside : pattern <+: text) : Resembling pattern text :=
  ⟨pattern,inside,matches_self token_reads fun _ => rfl⟩

theorem matched_slashes (matched : Matches Caseless (pattern.map token) text) : pattern.count '/' ≤ text.count '/' := by
  rw [← token_slashes]
  exact matches_count (fun b => (slash_alone b).mp) matched

theorem resembling_slashes (alike : Resembling pattern text) : pattern.count '/' ≤ text.count '/' := by
  obtain ⟨start,⟨rest,rfl⟩,matched⟩ := alike
  rw [List.count_append]
  exact (matched_slashes matched).trans (Nat.le_add_right _ _)

theorem deeper_slashes (deeper : like (pattern ++ ['%','/','%']) text = true) : pattern.count '/' < text.count '/' := by
  obtain ⟨start,rest,rfl,matched,slash⟩ := like_deeper.mp deeper
  have some := List.count_pos_iff.mpr slash
  have before := matched_slashes matched
  rw [List.count_append]
  omega

theorem deeper_resembling (deeper : like (pattern ++ ['%','/','%']) text = true) : Resembling pattern text := by
  obtain ⟨start,rest,rfl,matched,-⟩ := like_deeper.mp deeper
  exact ⟨start,List.prefix_append _ _,matched⟩

theorem rstrip_slashes (text : List Char) : ∃ k, text = rstrip (fun c => c = '/') text ++ List.replicate k '/' := by
  rw [show rstrip (fun c => c = '/') text = text.rdropWhile fun c => c = '/' from rfl]
  induction text using List.reverseRecOn with
  | nil => exact ⟨0,rfl⟩
  | append_singleton front last ih =>
      obtain ⟨k,whole⟩ := ih
      by_cases slash : last = '/'
      · have closes : decide (last = '/') = true := decide_eq_true slash
        refine ⟨k + 1,?_⟩
        rw [List.rdropWhile_concat_pos (fun c => decide (c = '/')) _ _ closes,slash,List.replicate_succ',← List.append_assoc,← whole]
      · refine ⟨0,?_⟩
        rw [List.rdropWhile_concat_neg _ _ _ (by simpa using slash),List.replicate_zero,List.append_nil]

theorem place_open : (place path).getLast? ≠ some '/' := by
  intro ends
  have closed := List.rdropWhile_last_not (fun c => decide (c = '/')) (forwardSlashes path).toList
    (fun empty => by rw [show place path = [] from empty] at ends; cases ends)
  have last := List.getLast?_eq_some_getLast (l := place path) (fun empty => by rw [empty] at ends; cases ends)
  rw [last] at ends
  exact closed (decide_eq_true (Option.some.inj ends))

theorem spelling_slashes (path : String) : ∃ k, spelling path = opening path ++ List.replicate k '/' := by
  obtain ⟨k,whole⟩ := rstrip_slashes (forwardSlashes path).toList
  unfold spelling opening
  rcases directory_cases (forwardSlashes path) with ⟨ends,same⟩ | ⟨ends,same⟩
  · cases k with
    | zero =>
        rw [List.replicate_zero,List.append_nil] at whole
        rw [whole] at ends
        exact absurd ends place_open
    | succ k =>
        refine ⟨k,?_⟩
        rw [show (normalizedFolderPath (forwardSlashes path)).toList = directory (forwardSlashes path) from rfl,same,whole,
          List.replicate_succ]
        unfold place
        rw [List.append_assoc,List.singleton_append]
  · refine ⟨0,?_⟩
    rw [show (normalizedFolderPath (forwardSlashes path)).toList = directory (forwardSlashes path) from rfl,same,
      List.replicate_zero,List.append_nil]
    unfold place
    rw [rstrip_open ends]

theorem subfolders_iff {folder : Folder} : folder ∈ getSubfolders catalog path ↔ folder ∈ catalog.folders.rows ∧
    (Resembling (opening path) folder.path.toList ∨ (folder.path.toList = place path ∧ forwardSlashes path ≠ "/")) := by
  unfold getSubfolders
  dsimp only
  split
  · rename_i root
    have bare : opening path = ['/'] := by
      unfold opening place
      rw [root]
      rfl
    rw [List.mem_filter,bare,Bool.or_eq_true,decide_eq_true_eq]
    refine and_congr_right fun _ => ?_
    rw [show (['/','%'] : List Char) = ['/'] ++ ['%'] from rfl,like_opening]
    constructor
    · rintro (same | alike)
      · exact .inl (resembling_self (by rw [same]; exact List.prefix_rfl))
      · exact .inl alike
    · rintro (alike | ⟨-,other⟩)
      · exact .inr alike
      · exact absurd root other
  · rename_i other
    rw [List.mem_filter]
    simp only [Bool.or_eq_true,decide_eq_true_eq]
    rw [like_opening]
    refine and_congr_right fun _ => ?_
    constructor
    · rintro ((same | same) | alike)
      · exact .inr ⟨same,other⟩
      · exact .inl (resembling_self (by rw [same]; exact List.prefix_rfl))
      · exact .inl alike
    · rintro (alike | ⟨same,-⟩)
      · exact .inr alike
      · exact .inl (.inl same)

theorem normalized_again (path : String) : normalizedFolderPath (normalizedFolderPath path) = normalizedFolderPath path := by
  have ends : (normalizedFolderPath path).toList.getLast? = some '/' := directory_ends
  rw [normalizedFolderPath,if_pos ends]

theorem children_iff {file : File} : file ∈ matchChildFiles catalog path ↔
    file ∈ catalog.files.rows ∧ Resembling (spelling path) file.path.toList := by
  unfold matchChildFiles
  rw [List.mem_filter,like_opening]
  rfl

theorem direct_iff {file : File} : file ∈ getDirectChildFiles catalog path ↔ file ∈ catalog.files.rows ∧
    Resembling (spelling path) file.path.toList ∧ like (spelling path ++ ['%','/','%']) file.path.toList = false := by
  unfold getDirectChildFiles
  rw [List.mem_filter,Bool.and_eq_true,like_opening,Bool.not_eq_true']
  rfl

structure Exact (catalog : Catalog) (path : String) : Prop where
  folders : ∀ folder, folder ∈ getSubfolders catalog path ↔ folder ∈ catalog.folders.rows ∧ Within path folder.path
  files : ∀ file, file ∈ matchChildFiles catalog path ↔ file ∈ catalog.files.rows ∧ Below path file.path
  children : ∀ file, file ∈ getDirectChildFiles catalog path ↔ file ∈ catalog.files.rows ∧ Directly path file.path

-- No row elsewhere looks as if it were below the path when the path is read as a pattern, the
-- root is not looked for beside a folder without a path, and a path that ends in several
-- slashes has only files below it that are spelt with these and with one more.
structure Distinguished (catalog : Catalog) (path : String) : Prop where
  folders : ∀ folder ∈ catalog.folders.rows, Resembling (opening path) folder.path.toList → opening path <+: folder.path.toList
  root : forwardSlashes path = "/" → ∀ folder ∈ catalog.folders.rows, folder.path ≠ ""
  files : ∀ file ∈ catalog.files.rows, Resembling (spelling path) file.path.toList → opening path <+: file.path.toList
  spelt : spelling path = opening path ∨ ∀ file ∈ catalog.files.rows, opening path <+: file.path.toList →
    like (spelling path ++ ['%','/','%']) file.path.toList = true

theorem exact_iff : Exact catalog path ↔ Distinguished catalog path := by
  have closed : (opening path).count '/' = (place path).count '/' + 1 := by
    unfold opening
    rw [List.count_append]
    rfl
  constructor
  · intro exact'
    refine ⟨?_,?_,?_,?_⟩
    · intro folder member alike
      have inside := ((exact'.folders folder).mp (subfolders_iff.mpr ⟨member,.inl alike⟩)).2
      rcases within_iff.mp inside with same | below
      · have slashes := resembling_slashes alike
        rw [same] at slashes
        omega
      · exact below
    · intro root folder member empty
      have bare : place path = [] := by
        unfold place
        rw [root]
        rfl
      have inside : Within path folder.path := within_iff.mpr (.inl (by rw [empty,bare]; rfl))
      rcases (subfolders_iff.mp ((exact'.folders folder).mpr ⟨member,inside⟩)).2 with alike | ⟨-,other⟩
      · have slashes := resembling_slashes alike
        rw [empty,closed] at slashes
        exact absurd slashes (by simp)
      · exact other root
    · intro file member alike
      exact below_iff.mp ((exact'.files file).mp (children_iff.mpr ⟨member,alike⟩)).2
    · by_cases single : spelling path = opening path
      · exact .inl single
      · right
        intro file member inside
        have alike := (children_iff.mp ((exact'.files file).mpr ⟨member,below_iff.mpr inside⟩)).2
        by_contra shallow
        have direct := (exact'.children file).mp (direct_iff.mpr ⟨member,alike,by simpa using shallow⟩)
        obtain ⟨name,plain,whole⟩ := directly_iff.mp direct.2
        obtain ⟨k,spelt⟩ := spelling_slashes path
        have slashes := resembling_slashes alike
        rw [spelt,whole,List.count_append,List.count_append,List.count_replicate_self,List.count_eq_zero.mpr plain] at slashes
        have none : k = 0 := by omega
        rw [none,List.replicate_zero,List.append_nil] at spelt
        exact single spelt
  · intro distinguished
    have shallow : ∀ file : File, Directly path file.path → like (spelling path ++ ['%','/','%']) file.path.toList = false := by
      intro file direct
      obtain ⟨name,plain,whole⟩ := directly_iff.mp direct
      obtain ⟨k,spelt⟩ := spelling_slashes path
      by_contra deeper
      have slashes := deeper_slashes (Bool.not_eq_false _ ▸ deeper)
      rw [spelt,whole,List.count_append,List.count_append,List.count_eq_zero.mpr plain] at slashes
      omega
    have found : ∀ file ∈ catalog.files.rows, opening path <+: file.path.toList → Resembling (spelling path) file.path.toList := by
      intro file member inside
      rcases distinguished.spelt with single | deeper
      · exact resembling_self (single ▸ inside)
      · exact deeper_resembling (deeper file member inside)
    refine ⟨?_,?_,?_⟩
    · intro folder
      rw [subfolders_iff]
      refine and_congr_right fun member => ?_
      rw [within_iff]
      constructor
      · rintro (alike | ⟨same,-⟩)
        · exact .inr (distinguished.folders folder member alike)
        · exact .inl same
      · rintro (same | inside)
        · by_cases root : forwardSlashes path = "/"
          · have bare : place path = [] := by
              unfold place
              rw [root]
              rfl
            rw [bare,String.toList_eq_nil_iff] at same
            exact absurd same (distinguished.root root folder member)
          · exact .inr ⟨same,root⟩
        · exact .inl (resembling_self inside)
    · intro file
      rw [children_iff,below_iff]
      exact and_congr_right fun member => ⟨distinguished.files file member,found file member⟩
    · intro file
      rw [direct_iff]
      refine and_congr_right fun member => ?_
      constructor
      · rintro ⟨alike,flat⟩
        obtain ⟨name,whole⟩ := distinguished.files file member alike
        refine directly_iff.mpr ⟨name,?_,whole.symm⟩
        intro slash
        rcases distinguished.spelt with single | deeper
        · have deep : like (spelling path ++ ['%','/','%']) file.path.toList = true :=
            like_deeper.mpr ⟨opening path,name,whole.symm,single ▸ matches_self token_reads fun _ => rfl,slash⟩
          rw [deep] at flat
          cases flat
        · rw [deeper file member ⟨name,whole⟩] at flat
          cases flat
      · intro direct
        obtain ⟨name,-,whole⟩ := directly_iff.mp direct
        exact ⟨found file member ⟨name,whole.symm⟩,shallow file direct⟩

end ImageSearch.Subtrees
