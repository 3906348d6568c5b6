import ImageSearch.IndexCalls
import ImageSearch.Ranking

namespace ImageSearch.FolderSearch
open Tables FileCatalog IndexCalls Ranking

variable {Vector Score : Type*}

def topK : Nat := 100

inductive ModelState where
  | loading | ready | failed
  deriving DecidableEq, Repr

-- The database and the files as a search finds them. A row names no vector but the one that
-- was added under its own id.
structure Searched (Vector : Type*) where
  library : PhotoLibrary Vector
  corrupt : Nat → Bool
  onDisk : String → Bool
  own : ∀ file ∈ library.catalog.files.rows, ∀ id, file.clipIndex = some id → file.id = id

-- What FAISS is assumed to answer: k entries with the highest scores, in any order, and an
-- entry of id -1 for each that is missing.
structure TopEntries [LinearOrder Score] (score : Vector → Score) (index : IndexFile Vector) (k : Nat) (answer : List (Int × Score)) : Prop where
  parts : ∃ (taken rest : IndexFile Vector) (padding : List (Int × Score)), (taken ++ rest).Perm index ∧
    taken.length = min k index.length ∧ (∀ one ∈ taken, ∀ other ∈ rest, score other.2 ≤ score one.2) ∧
    answer.Perm (taken.map (fun entry => ((entry.1 : Int),score entry.2)) ++ padding) ∧
    (∀ pad ∈ padding, pad.1 = -1) ∧ padding.length = k - index.length

def queryInternal [LinearOrder Score] (search : IndexFile Vector → Nat → List (Int × Score)) (s : Searched Vector) (folderId k : Nat) :
    List (Int × Score) :=
  match s.library.indices folderId with
  | none => []
  | some index => if s.corrupt folderId then [] else descending Prod.snd (search index k)

def dedupe (seen : List Int) : List (Int × Score) → List (Int × Score)
  | [] => []
  | item :: rest => if item.1 ∈ seen then dedupe seen rest else item :: dedupe (item.1 :: seen) rest

def hasClip (file : File) (clipIndex : Int) : Bool := file.clipIndex.any fun id => (id : Int) = clipIndex

-- A dictionary of the rows that the statement finds, in which a later row replaces an earlier one.
def getFilesByClipIndices (catalog : Catalog) (folderId : Nat) (clipIndices : List Int) : List (Option String) :=
  let rows := catalog.files.rows.filter fun file =>
    file.folderId = folderId && clipIndices.any (hasClip file) && file.status = .indexed
  clipIndices.map fun clipIndex => (rows.reverse.find? fun file => hasClip file clipIndex).map File.path

def queryIndex [LinearOrder Score] (search : IndexFile Vector → Nat → List (Int × Score)) (s : Searched Vector) (folderId : Nat) :
    List (String × Score) :=
  match s.library.catalog.folders.find? folderId with
  | none => []
  | some folder =>
    if !s.onDisk folder.path then []
    else
      -- Fetch more to account for deduplication
      let indexScorePairs := dedupe [] (queryInternal search s folderId (topK * 5))
      let filePaths := getFilesByClipIndices s.library.catalog folderId (indexScorePairs.map Prod.fst)
      ((filePaths.zip indexScorePairs).filterMap fun (file,pair) => file.map fun path => (path,pair.2)).take topK

def searchInFolder [LinearOrder Score] (search : IndexFile Vector → Nat → List (Int × Score)) (s : Searched Vector) (folder : Folder) :
    List (String × Score) :=
  if (s.library.indices folder.id).isNone then [] else queryIndex search s folder.id

-- ModelNotReadyError tells the state.
def searchFolders [LinearOrder Score] (search : IndexFile Vector → Nat → List (Int × Score)) (state : ModelState) (s : Searched Vector) :
    Except ModelState (List (String × Score)) :=
  if state ≠ .ready then .error state
  else .ok ((descending Prod.snd (s.library.catalog.folders.rows.flatMap (searchInFolder search s))).take topK)

-- The row of a vector, and the rows that the answer for a folder reaches, best first.
def rowOf (s : Searched Vector) (folderId : Nat) (clipIndex : Int) : Option File :=
  s.library.catalog.files.rows.find? fun file => file.folderId = folderId && file.status = .indexed && hasClip file clipIndex

def reachedIn [LinearOrder Score] (search : IndexFile Vector → Nat → List (Int × Score)) (s : Searched Vector) (folder : Folder) :
    List (File × Score) :=
  if !s.onDisk folder.path then []
  else (dedupe [] (queryInternal search s folder.id (topK * 5))).filterMap fun pair =>
    (rowOf s folder.id pair.1).map fun file => (file,pair.2)

def reached [LinearOrder Score] (search : IndexFile Vector → Nat → List (Int × Score)) (s : Searched Vector) : List (File × Score) :=
  s.library.catalog.folders.rows.flatMap (reachedIn search s)

section Dedupe
variable {items : List (Int × Score)} {seen : List Int} {item : Int × Score}

theorem dedupe_sublist : (dedupe seen items).Sublist items := by
  induction items generalizing seen with
  | nil => exact .slnil
  | cons head rest ih =>
      unfold dedupe
      split
      · exact ih.cons head
      · exact ih.cons_cons head

theorem dedupe_unseen (member : item ∈ dedupe seen items) : item.1 ∉ seen := by
  induction items generalizing seen with
  | nil => cases member
  | cons head rest ih =>
      unfold dedupe at member
      split at member
      · exact ih member
      · rename_i unseen
        rcases List.mem_cons.mp member with rfl | later
        · exact unseen
        · exact fun old => ih later (List.mem_cons_of_mem _ old)

theorem dedupe_distinct : ((dedupe seen items).map Prod.fst).Nodup := by
  induction items generalizing seen with
  | nil => exact List.nodup_nil
  | cons head rest ih =>
      unfold dedupe
      split
      · exact ih
      · rw [List.map_cons,List.nodup_cons]
        refine ⟨?_,ih⟩
        intro again
        obtain ⟨other,there,same⟩ := List.mem_map.mp again
        exact dedupe_unseen there (same ▸ List.mem_cons_self)

theorem dedupe_best [LinearOrder Score] (ordered : items.Pairwise fun one two => two.2 ≤ one.2) (member : item ∈ dedupe seen items)
    {other : Int × Score} (listed : other ∈ items) (same : other.1 = item.1) : other.2 ≤ item.2 := by
  induction items generalizing seen with
  | nil => cases listed
  | cons head rest ih =>
      obtain ⟨first,ordered⟩ := List.pairwise_cons.mp ordered
      unfold dedupe at member
      split at member
      · rename_i old
        have unseen := dedupe_unseen member
        rcases List.mem_cons.mp listed with rfl | later
        · exact absurd (same ▸ old) unseen
        · exact ih ordered member later
      · rcases List.mem_cons.mp member with rfl | kept
        · rcases List.mem_cons.mp listed with rfl | later
          · exact le_refl _
          · exact first other later
        · rcases List.mem_cons.mp listed with rfl | later
          · exact absurd (same ▸ List.mem_cons_self) (dedupe_unseen kept)
          · exact ih ordered kept later

theorem dedupe_covers (member : item ∈ items) (unseen : item.1 ∉ seen) : ∃ first ∈ dedupe seen items, first.1 = item.1 := by
  induction items generalizing seen with
  | nil => cases member
  | cons head rest ih =>
      unfold dedupe
      split
      · rename_i old
        rcases List.mem_cons.mp member with rfl | later
        · exact absurd old unseen
        · exact ih later unseen
      · by_cases same : head.1 = item.1
        · exact ⟨head,List.mem_cons_self,same⟩
        · have later : item ∈ rest := (List.mem_cons.mp member).resolve_left fun equal => same (congrArg Prod.fst equal.symm)
          have still : item.1 ∉ head.1 :: seen := by
            rw [List.mem_cons,not_or]
            exact ⟨Ne.symm same,unseen⟩
          obtain ⟨found,there,equal⟩ := ih later still
          exact ⟨found,List.mem_cons_of_mem _ there,equal⟩

end Dedupe

section Rows
variable {search : IndexFile Vector → Nat → List (Int × Score)} {s : Searched Vector} {folderId : Nat} {folder : Folder}

theorem hasClip_parts {file : File} {clipIndex : Int} : hasClip file clipIndex = true ↔
    ∃ id : Nat, file.clipIndex = some id ∧ (id : Int) = clipIndex := by
  unfold hasClip
  cases file.clipIndex with
  | none => simp
  | some id => simp

theorem clip_unique {one two : File} {clipIndex : Int} (first : one ∈ s.library.catalog.files.rows)
    (second : two ∈ s.library.catalog.files.rows) (clip : hasClip one clipIndex = true) (clip' : hasClip two clipIndex = true) :
    one = two := by
  obtain ⟨id,named,same⟩ := hasClip_parts.mp clip
  obtain ⟨id',named',same'⟩ := hasClip_parts.mp clip'
  have equal : id = id' := Int.ofNat.inj (same.trans same'.symm)
  apply List.inj_on_of_nodup_map s.library.catalog.files.distinct first second
  exact (s.own one first id named).trans (equal ▸ (s.own two second id' named').symm)

theorem rowOf_parts {clipIndex : Int} {file : File} (found : rowOf s folderId clipIndex = some file) :
    file ∈ s.library.catalog.files.rows ∧ file.folderId = folderId ∧ file.status = .indexed ∧ hasClip file clipIndex = true := by
  have there := List.mem_of_find?_eq_some found
  have hit := List.find?_some found
  simp only [Bool.and_eq_true,decide_eq_true_eq] at hit
  exact ⟨there,hit.1.1,hit.1.2,hit.2⟩

theorem dictionary_row {clipIndices : List Int} {clipIndex : Int} (asked : clipIndex ∈ clipIndices) :
    ((s.library.catalog.files.rows.filter fun file => file.folderId = folderId && clipIndices.any (hasClip file) &&
      file.status = .indexed).reverse.find? fun file => hasClip file clipIndex) = rowOf s folderId clipIndex := by
  cases found : rowOf s folderId clipIndex with
  | none =>
      apply List.find?_eq_none.mpr
      intro file member clip
      rw [List.mem_reverse,List.mem_filter] at member
      have miss := List.find?_eq_none.mp found file member.1
      simp only [Bool.and_eq_true,decide_eq_true_eq] at member miss
      exact miss ⟨⟨member.2.1.1,member.2.2⟩,clip⟩
  | some file =>
      obtain ⟨there,mine,indexed,clip⟩ := rowOf_parts found
      cases located : ((s.library.catalog.files.rows.filter fun file => file.folderId = folderId &&
          clipIndices.any (hasClip file) && file.status = .indexed).reverse.find? fun file => hasClip file clipIndex) with
      | none =>
          have listed : file ∈ (s.library.catalog.files.rows.filter fun file => file.folderId = folderId &&
              clipIndices.any (hasClip file) && file.status = .indexed).reverse := by
            rw [List.mem_reverse,List.mem_filter]
            have any : clipIndices.any (hasClip file) = true := List.any_eq_true.mpr ⟨clipIndex,asked,clip⟩
            exact ⟨there,by simp [mine,indexed,any]⟩
          exact absurd clip (List.find?_eq_none.mp located file listed)
      | some other =>
          have member := List.mem_of_find?_eq_some located
          rw [List.mem_reverse,List.mem_filter] at member
          have clip' : hasClip other clipIndex = true := List.find?_some (p:=fun file => hasClip file clipIndex) located
          rw [clip_unique member.1 there clip' clip]

theorem dictionary_pairs {pairs : List (Int × Score)} {clipIndices : List Int} (asked : ∀ pair ∈ pairs, pair.1 ∈ clipIndices) :
    ((((pairs.map Prod.fst).map fun clipIndex => ((s.library.catalog.files.rows.filter fun file => file.folderId = folderId &&
      clipIndices.any (hasClip file) && file.status = .indexed).reverse.find? fun file => hasClip file clipIndex).map
        File.path).zip pairs).filterMap fun (file,pair) => file.map fun path => (path,pair.2)) =
    (pairs.filterMap fun pair => (rowOf s folderId pair.1).map fun file => (file,pair.2)).map
      fun row => (row.1.path,row.2) := by
  induction pairs with
  | nil => rfl
  | cons pair rest ih =>
      have rest := ih fun other member => asked other (List.mem_cons_of_mem _ member)
      rw [List.map_cons,List.map_cons,List.zip_cons_cons,List.filterMap_cons,List.filterMap_cons,
        dictionary_row (asked pair List.mem_cons_self)]
      dsimp only
      cases rowOf s folderId pair.1 with
      | none => exact rest
      | some file =>
          dsimp only [Option.map_some]
          rw [List.map_cons,rest]

-- What the code answers for a folder is the paths and scores of the first rows reached.
theorem searchInFolder_reached [LinearOrder Score] (member : folder ∈ s.library.catalog.folders.rows) :
    searchInFolder search s folder = ((reachedIn search s folder).map fun row => (row.1.path,row.2)).take topK := by
  unfold searchInFolder
  split
  · rename_i none
    have nothing : queryInternal search s folder.id (topK * 5) = [] := by
      unfold queryInternal
      rw [Option.isNone_iff_eq_none.mp none]
    unfold reachedIn
    rw [nothing]
    split <;> rfl
  · unfold queryIndex reachedIn
    rw [find_of_mem member]
    dsimp only
    split
    · rfl
    · congr 1
      apply dictionary_pairs
      intro pair there
      exact List.mem_map_of_mem there

end Rows

end ImageSearch.FolderSearch
