import ImageSearch.FolderSearch
import Mathlib.Data.Finset.Card
import Mathlib.Data.Finset.Max

namespace ImageSearch.SearchMatches
open Tables FileCatalog IndexCalls Ranking FolderSearch

variable {Vector Score : Type*} [LinearOrder Score] {score : Vector → Score}
  {search : IndexFile Vector → Nat → List (Int × Score)} {s : Searched Vector} {file : File} {q : Score}

def readable (s : Searched Vector) (folderId : Nat) : IndexFile Vector :=
  match s.library.catalog.folders.find? folderId with
  | none => []
  | some folder =>
    if !s.onDisk folder.path || s.corrupt folderId then [] else (s.library.indices folderId).getD []

def scores (score : Vector → Score) (s : Searched Vector) (file : File) : List Score :=
  (readable s file.folderId).filterMap fun entry => if hasClip file entry.1 then some (score entry.2) else none

def Live (score : Vector → Score) (s : Searched Vector) (file : File) : Prop :=
  file ∈ s.library.catalog.files.rows ∧ file.status = .indexed ∧ scores score s file ≠ []

def Best (score : Vector → Score) (s : Searched Vector) (file : File) (q : Score) : Prop :=
  q ∈ scores score s file ∧ ∀ other ∈ scores score s file, other ≤ q

def livePaths (score : Vector → Score) (s : Searched Vector) : Finset String :=
  ((s.library.catalog.files.rows.filter fun file => file.status = .indexed && scores score s file ≠ []).map File.path).toFinset

-- The best matches: a hundred live files, or all of them, and none is left out that is better
-- than one of these.
structure BestMatches (score : Vector → Score) (s : Searched Vector) (results : List (String × Score)) : Prop where
  distinct : (results.map Prod.fst).Nodup
  ordered : results.Pairwise fun one two => two.2 ≤ one.2
  live : ∀ result ∈ results, ∃ file, Live score s file ∧ file.path = result.1 ∧ Best score s file result.2
  counted : results.length = min topK (livePaths score s).card
  best : ∀ file q, Live score s file → Best score s file q → file.path ∉ results.map Prod.fst → ∀ result ∈ results, q ≤ result.2

-- No path is twice among the hundred rows reached that come first; and a live row that the
-- answer for its folder does not reach is no better than a hundred that are reached, or its path
-- comes first by another row.
structure Unobstructed (score : Vector → Score) (search : IndexFile Vector → Nat → List (Int × Score)) (s : Searched Vector) :
    Prop where
  once : ∀ one ∈ reached search s, ∀ two ∈ reached search s, one.1.path = two.1.path →
    ahead Prod.snd (reached search s) one < topK → ahead Prod.snd (reached search s) two < topK → one = two
  missed : ∀ file q, Live score s file → Best score s file q → (∀ other, (file,other) ∉ reached search s) →
    (topK ≤ (reached search s).countP fun row => q ≤ row.2) ∨
      ∃ row ∈ reached search s, row.1.path = file.path ∧ ahead Prod.snd (reached search s) row < topK

section Reached
variable {folder : Folder} {row : File × Score}

theorem queryInternal_ordered {folderId k : Nat} : (queryInternal search s folderId k).Pairwise fun one two => two.2 ≤ one.2 := by
  unfold queryInternal
  split
  · exact List.Pairwise.nil
  · split
    · exact List.Pairwise.nil
    · exact descending_ordered _ _

theorem answered_best {folderId k : Nat} (exact : ∀ index k, TopEntries score index k (search index k)) {item : Int × Score} {id : Nat}
    (same : (id : Int) = item.1) (member : item ∈ dedupe [] (queryInternal search s folderId k)) :
    s.corrupt folderId = false ∧ ∃ index, s.library.indices folderId = some index ∧ (∃ vector, (id,vector) ∈ index ∧ score vector = item.2) ∧
      ∀ vector, (id,vector) ∈ index → score vector ≤ item.2 := by
  have asked := dedupe_sublist.subset member
  have bound := fun (other : Int × Score) (listed : other ∈ queryInternal search s folderId k) (same : other.1 = item.1) =>
    dedupe_best queryInternal_ordered member listed same
  unfold queryInternal at asked bound
  cases there : s.library.indices folderId with
  | none =>
      rw [there] at asked
      cases asked
  | some index =>
      rw [there] at asked bound
      dsimp only at asked bound
      cases broken : s.corrupt folderId with
      | true =>
          rw [broken,if_pos rfl] at asked
          cases asked
      | false =>
          rw [broken,if_neg (by decide)] at asked bound
          obtain ⟨taken,rest,padding,whole,-,top,answer,pads,-⟩ := (exact index k).parts
          have listed : ∀ pair, pair ∈ descending Prod.snd (search index k) ↔
              pair ∈ taken.map (fun entry => ((entry.1 : Int),score entry.2)) ∨ pair ∈ padding := by
            intro pair
            rw [mem_descending,answer.mem_iff,List.mem_append]
          -- The id is no padding, and so the pair comes of an entry.
          obtain ⟨entry,inside,rfl⟩ : ∃ entry ∈ taken, ((entry.1 : Int),score entry.2) = item := by
            rcases (listed item).mp asked with real | pad
            · exact List.mem_map.mp real
            · have minus := pads item pad
              omega
          have mine : entry.1 = id := (Int.ofNat.inj same).symm
          refine ⟨rfl,index,rfl,⟨entry.2,whole.subset (List.mem_append_left _ (mine ▸ inside)),rfl⟩,?_⟩
          intro vector other
          rcases List.mem_append.mp (whole.symm.subset other) with took | left
          · exact bound ((id : Int),score vector) ((listed _).mpr (.inl (List.mem_map.mpr ⟨(id,vector),took,rfl⟩))) same
          · exact top entry inside (id,vector) left

theorem reachedIn_live (exact : ∀ index k, TopEntries score index k (search index k))
    (registered : folder ∈ s.library.catalog.folders.rows) (member : row ∈ reachedIn search s folder) :
    row.1.folderId = folder.id ∧ Live score s row.1 ∧ Best score s row.1 row.2 := by
  unfold reachedIn at member
  split at member
  · cases member
  · rename_i there
    obtain ⟨item,kept,same⟩ := List.mem_filterMap.mp member
    obtain ⟨file,found,rfl⟩ := Option.map_eq_some_iff.mp same
    obtain ⟨listed,mine,indexed,clip⟩ := rowOf_parts found
    obtain ⟨id,named,equal⟩ := hasClip_parts.mp clip
    obtain ⟨intact,index,here,⟨vector,stored,scored⟩,above⟩ := answered_best exact equal kept
    have readable : readable s file.folderId = index := by
      unfold SearchMatches.readable
      rw [mine,find_of_mem registered,here]
      dsimp only
      rw [intact,Bool.or_false,if_neg there,Option.getD_some]
    have owns : hasClip file id = true := hasClip_parts.mpr ⟨id,named,rfl⟩
    have scoresOf : ∀ other, other ∈ scores score s file ↔ ∃ vector, (id,vector) ∈ index ∧ score vector = other := by
      intro other
      unfold scores
      rw [readable,List.mem_filterMap]
      constructor
      · rintro ⟨entry,present,scored⟩
        split at scored
        · rename_i clip'
          obtain ⟨id',named',equal'⟩ := hasClip_parts.mp clip'
          have same : id = entry.1 := (Option.some.inj (named.symm.trans named')).trans (Int.ofNat.inj equal')
          exact ⟨entry.2,same ▸ present,Option.some.inj scored⟩
        · cases scored
      · rintro ⟨vector,present,scored⟩
        exact ⟨(id,vector),present,(if_pos owns).trans (congrArg some scored)⟩
    have best : Best score s file item.2 := by
      refine ⟨(scoresOf _).mpr ⟨vector,stored,scored⟩,?_⟩
      intro other present
      obtain ⟨vector',stored',rfl⟩ := (scoresOf _).mp present
      exact above vector' stored'
    exact ⟨mine,⟨listed,indexed,List.ne_nil_of_mem best.1⟩,best⟩

theorem reachedIn_ordered : (reachedIn search s folder).Pairwise fun one two => two.2 ≤ one.2 := by
  unfold reachedIn
  split
  · exact List.Pairwise.nil
  · apply List.Pairwise.filterMap _ _ (queryInternal_ordered.sublist dedupe_sublist)
    intro one two below first one' second two'
    obtain ⟨_,-,rfl⟩ := Option.map_eq_some_iff.mp one'
    obtain ⟨_,-,rfl⟩ := Option.map_eq_some_iff.mp two'
    exact below

theorem reachedIn_distinct : (reachedIn search s folder).Nodup := by
  unfold reachedIn
  split
  · exact List.nodup_nil
  · apply List.Pairwise.filterMap _ _ (List.pairwise_map.mp dedupe_distinct)
    intro one two apart first one' second two' same
    obtain ⟨file,found,rfl⟩ := Option.map_eq_some_iff.mp one'
    obtain ⟨file',found',rfl⟩ := Option.map_eq_some_iff.mp two'
    have equalFiles : file = file' := congrArg Prod.fst same
    subst equalFiles
    obtain ⟨id,named,equal⟩ := hasClip_parts.mp (rowOf_parts found).2.2.2
    obtain ⟨id',named',equal'⟩ := hasClip_parts.mp (rowOf_parts found').2.2.2
    cases named.symm.trans named'
    exact apart (equal.symm.trans equal')

theorem reached_distinct (exact : ∀ index k, TopEntries score index k (search index k)) : (reached search s).Nodup := by
  apply List.nodup_flatMap.mpr
  refine ⟨fun folder _ => reachedIn_distinct,?_⟩
  have folders := List.pairwise_map.mp s.library.catalog.folders.distinct
  apply folders.imp_of_mem
  intro one two member member' apart row first second
  apply apart
  exact (reachedIn_live exact member first).1.symm.trans (reachedIn_live exact member' second).1

theorem reached_live (exact : ∀ index k, TopEntries score index k (search index k)) (member : row ∈ reached search s) :
    Live score s row.1 ∧ Best score s row.1 row.2 := by
  obtain ⟨folder,registered,inside⟩ := List.mem_flatMap.mp member
  exact (reachedIn_live exact registered inside).2

def shortlist (search : IndexFile Vector → Nat → List (Int × Score)) (s : Searched Vector) : List (File × Score) :=
  s.library.catalog.folders.rows.flatMap fun folder => (reachedIn search s folder).take topK

theorem shortlist_within : (shortlist search s).Sublist (reached search s) := by
  unfold shortlist reached
  induction s.library.catalog.folders.rows with
  | nil => exact .slnil
  | cons folder rest ih =>
      rw [List.flatMap_cons,List.flatMap_cons]
      exact (List.take_sublist _ _).append ih

theorem shortlist_foremost (exact : ∀ index k, TopEntries score index k (search index k)) :
    row ∈ (descending Prod.snd (shortlist search s)).take topK ↔ row ∈ (descending Prod.snd (reached search s)).take topK := by
  apply foremost_cut shortlist_within (reached_distinct exact)
  · intro one member out
    obtain ⟨folder,registered,inside⟩ := List.mem_flatMap.mp member
    have beyond : one ∉ (descending Prod.snd (reachedIn search s folder)).take topK := by
      rw [descending_self reachedIn_ordered]
      exact fun taken => out (List.mem_flatMap.mpr ⟨folder,registered,taken⟩)
    rw [mem_foremost reachedIn_distinct inside,Nat.not_lt] at beyond
    apply beyond.trans
    apply ahead_sublist _ (reached_distinct exact) inside
    exact List.sublist_flatten_of_mem (List.mem_map_of_mem registered)
  · intro short
    unfold shortlist reached
    apply List.flatMap_congr
    intro folder registered
    apply List.take_of_length_le
    by_contra long
    have part : ((reachedIn search s folder).take topK).length ≤ (shortlist search s).length := by
      apply List.Sublist.length_le
      exact List.sublist_flatten_of_mem (List.mem_map_of_mem (f:=fun folder => (reachedIn search s folder).take topK) registered)
    rw [List.length_take] at part
    omega

theorem searchFolders_shortlist {state : ModelState} {results : List (String × Score)}
    (returned : searchFolders search state s = .ok results) :
    results = ((descending Prod.snd (shortlist search s)).take topK).map fun row => (row.1.path,row.2) := by
  unfold searchFolders at returned
  split at returned
  · cases returned
  · cases returned
    have merged : s.library.catalog.folders.rows.flatMap (searchInFolder search s) =
        (shortlist search s).map fun row => (row.1.path,row.2) := by
      unfold shortlist
      rw [List.map_flatMap]
      apply List.flatMap_congr
      intro folder registered
      rw [searchInFolder_reached registered,List.map_take]
    rw [merged,List.map_take]
    congr 1
    unfold descending
    symm
    apply List.map_insertionSort
    intros
    exact Iff.rfl

end Reached

section Results

omit [LinearOrder Score] in
theorem mem_livePaths {path : String} : path ∈ livePaths score s ↔ ∃ file, Live score s file ∧ file.path = path := by
  unfold livePaths Live
  simp [and_assoc]

theorem exists_best (live : Live score s file) : ∃ q, Best score s file q := by
  obtain ⟨one,member⟩ := List.exists_mem_of_ne_nil _ live.2.2
  obtain ⟨q,there,above⟩ := Finset.exists_max_image (scores score s file).toFinset id ⟨one,List.mem_toFinset.mpr member⟩
  exact ⟨q,List.mem_toFinset.mp there,fun other present => above other (List.mem_toFinset.mpr present)⟩

variable {row : File × Score} {results : List (String × Score)} {state : ModelState}

structure Answered (search : IndexFile Vector → Nat → List (Int × Score)) (s : Searched Vector) (rows : List (File × Score)) :
    Prop where
  distinct : rows.Nodup
  ordered : rows.Pairwise fun one two => two.2 ≤ one.2
  first : ∀ row, row ∈ rows ↔ row ∈ (descending Prod.snd (reached search s)).take topK
  short : rows.length ≤ topK
  whole : rows.length < topK → ∀ row ∈ reached search s, row ∈ rows

theorem shortlist_answered (exact : ∀ index k, TopEntries score index k (search index k)) :
    Answered search s ((descending Prod.snd (shortlist search s)).take topK) := by
  have few := (reached_distinct exact).sublist (shortlist_within (s:=s))
  refine ⟨?_,?_,fun row => shortlist_foremost exact,List.length_take_le _ _,?_⟩
  · exact (descending_perm.nodup_iff.mpr few).sublist (List.take_sublist _ _)
  · exact (descending_ordered Prod.snd (shortlist search s)).sublist (List.take_sublist _ _)
  · intro short row member
    rw [shortlist_foremost exact]
    have everything : (reached search s).length ≤ topK := by
      have all : ((descending Prod.snd (shortlist search s)).take topK).Perm
          ((descending Prod.snd (reached search s)).take topK) := by
        apply (List.perm_ext_iff_of_nodup ?_ ?_).mpr fun row => shortlist_foremost exact
        · exact (descending_perm.nodup_iff.mpr few).sublist (List.take_sublist _ _)
        · exact (descending_perm.nodup_iff.mpr (reached_distinct exact)).sublist (List.take_sublist _ _)
      rw [all.length_eq,List.length_take,descending_perm.length_eq] at short
      omega
    rw [List.take_of_length_le (descending_perm.length_eq.trans_le everything)]
    exact mem_descending.mpr member

theorem answered_first {rows : List (File × Score)} (exact : ∀ index k, TopEntries score index k (search index k))
    (answered : Answered search s rows) : row ∈ rows ↔ row ∈ reached search s ∧ ahead Prod.snd (reached search s) row < topK := by
  rw [answered.first]
  constructor
  · intro taken
    have member := mem_descending.mp (List.mem_of_mem_take taken)
    exact ⟨member,(mem_foremost (reached_distinct exact) member).mp taken⟩
  · intro ⟨member,before⟩
    exact (mem_foremost (reached_distinct exact) member).mpr before

theorem answered_paths {rows : List (File × Score)} (exact : ∀ index k, TopEntries score index k (search index k))
    (answered : Answered search s rows) : (rows.map fun row => row.1.path).toFinset ⊆ livePaths score s := by
  intro path member
  obtain ⟨row,there,rfl⟩ := List.mem_map.mp (List.mem_toFinset.mp member)
  exact mem_livePaths.mpr ⟨row.1,(reached_live exact ((answered_first exact answered).mp there).1).1,rfl⟩

theorem matches_unobstructed {rows : List (File × Score)} (exact : ∀ index k, TopEntries score index k (search index k))
    (answered : Answered search s rows) (best : BestMatches score s (rows.map fun row => (row.1.path,row.2))) :
    Unobstructed score search s := by
  have paths : (rows.map fun row => row.1.path).Nodup := by
    have distinct := best.distinct
    rw [List.map_map] at distinct
    exact distinct
  refine ⟨?_,?_⟩
  · intro one member two member' same before before'
    have first := (answered_first exact answered).mpr ⟨member,before⟩
    have second := (answered_first exact answered).mpr ⟨member',before'⟩
    exact List.inj_on_of_nodup_map paths first second same
  · intro file q live top unreached
    by_cases answeredPath : file.path ∈ rows.map fun row => row.1.path
    · obtain ⟨row,there,same⟩ := List.mem_map.mp answeredPath
      obtain ⟨member,before⟩ := (answered_first exact answered).mp there
      exact .inr ⟨row,member,same,before⟩
    · -- One live path more than were answered: there are a hundred of these, none of them worse.
      refine .inl ?_
      have left : insert file.path (rows.map fun row => row.1.path).toFinset ⊆ livePaths score s := by
        apply Finset.insert_subset (mem_livePaths.mpr ⟨file,live,rfl⟩) (answered_paths exact answered)
      have more := Finset.card_le_card left
      rw [Finset.card_insert_of_notMem (by simpa using answeredPath),List.toFinset_card_of_nodup paths,List.length_map] at more
      have counted := best.counted
      rw [List.length_map] at counted
      have full : rows.length = topK := by omega
      have good : rows.countP (fun row => q ≤ row.2) = rows.length := by
        apply List.countP_eq_length.mpr
        intro row there
        apply decide_eq_true
        apply best.best file q live top _ (row.1.path,row.2) (List.mem_map_of_mem there)
        rw [List.map_map]
        exact answeredPath
      have within : rows.Subperm (reached search s) :=
        List.subperm_of_subset answered.distinct fun row there => ((answered_first exact answered).mp there).1
      have counts := within.countP_le fun row => q ≤ row.2
      omega

theorem unobstructed_matches {rows : List (File × Score)} (exact : ∀ index k, TopEntries score index k (search index k))
    (answered : Answered search s rows) (clear : Unobstructed score search s) :
    BestMatches score s (rows.map fun row => (row.1.path,row.2)) := by
  have paths : (rows.map fun row => row.1.path).Nodup := by
    apply (List.nodup_map_iff_inj_on answered.distinct).mpr
    intro one first two second same
    obtain ⟨member,before⟩ := (answered_first exact answered).mp first
    obtain ⟨member',before'⟩ := (answered_first exact answered).mp second
    exact clear.once one member two member' same before before'
  refine ⟨?_,?_,?_,?_,?_⟩
  · rw [List.map_map]
    exact paths
  · rw [List.pairwise_map]
    exact answered.ordered
  · intro result there
    obtain ⟨row,member,rfl⟩ := List.mem_map.mp there
    obtain ⟨live,top⟩ := reached_live exact ((answered_first exact answered).mp member).1
    exact ⟨row.1,live,rfl,top⟩
  · have fewer := Finset.card_le_card (answered_paths exact answered)
    rw [List.toFinset_card_of_nodup paths,List.length_map] at fewer
    have short := answered.short
    rw [List.length_map]
    by_cases full : rows.length = topK
    · omega
    · -- Every row reached is answered, and every live path by some row.
      have whole := answered.whole (lt_of_le_of_ne short full)
      have all : livePaths score s ⊆ (rows.map fun row => row.1.path).toFinset := by
        intro path member
        obtain ⟨file,live,rfl⟩ := mem_livePaths.mp member
        apply List.mem_toFinset.mpr
        by_cases found : ∃ other, (file,other) ∈ reached search s
        · obtain ⟨other,there⟩ := found
          exact List.mem_map.mpr ⟨(file,other),whole _ there,rfl⟩
        · obtain ⟨q,top⟩ := exists_best live
          rcases clear.missed file q live top (not_exists.mp found) with many | ⟨row,there,same,-⟩
          · have within : (reached search s).Subperm rows := List.subperm_of_subset (reached_distinct exact) whole
            have length := within.length_le
            have part := (reached search s).countP_le_length (p:=fun row => q ≤ row.2)
            omega
          · exact List.mem_map.mpr ⟨row,whole row there,same⟩
      have enough := Finset.card_le_card all
      rw [List.toFinset_card_of_nodup paths,List.length_map] at enough
      omega
  · intro file q live top left result there
    obtain ⟨row,member,rfl⟩ := List.mem_map.mp there
    rw [List.map_map] at left
    have taken := (answered.first row).mp member
    by_cases found : ∃ other, (file,other) ∈ reached search s
    · obtain ⟨other,reaches⟩ := found
      have out : (file,other) ∉ (descending Prod.snd (reached search s)).take topK := by
        intro inside
        exact left (List.mem_map.mpr ⟨(file,other),(answered.first _).mpr inside,rfl⟩)
      exact ((reached_live exact reaches).2.2 q top.1).trans (foremost_above taken reaches out)
    · rcases clear.missed file q live top (not_exists.mp found) with many | ⟨other,reaches,same,before⟩
      · have good : q ≤ row.2 := foremost_among many taken
        exact good
      · exact absurd (List.mem_map.mpr ⟨other,(answered_first exact answered).mpr ⟨reaches,before⟩,same⟩) left

-- The answer is the best matches, unless stale or repeated vectors crowd a live file out of the
-- five hundred, or a path comes first by two rows.
theorem search_best_matches {Vector Score : Type*} [LinearOrder Score] (score : Vector → Score)
    (search : IndexFile Vector → Nat → List (Int × Score)) (s : Searched Vector) (state : ModelState)
    (results : List (String × Score)) (exact : ∀ index k, TopEntries score index k (search index k))
    (returned : searchFolders search state s = .ok results) : BestMatches score s results ↔ Unobstructed score search s := by
  rw [searchFolders_shortlist returned]
  have answered := shortlist_answered (s:=s) exact
  exact ⟨matches_unobstructed exact answered,unobstructed_matches exact answered⟩

theorem small_index_reached (exact : ∀ index k, TopEntries score index k (search index k)) (live : Live score s file)
    (small : (readable s file.folderId).length ≤ topK * 5) : ∃ q, (file,q) ∈ reached search s := by
  obtain ⟨listed,indexed,some⟩ := live
  obtain ⟨one,member⟩ := List.exists_mem_of_ne_nil _ some
  obtain ⟨entry,stored,scored⟩ := List.mem_filterMap.mp member
  split at scored
  · rename_i clip
    unfold readable at stored small
    split at stored
    · cases stored
    · rename_i folder registered
      rw [registered] at small
      dsimp only at small
      obtain ⟨there,mine⟩ := find_mem registered
      split at stored
      · cases stored
      · rename_i visible
        rw [if_neg visible] at small
        obtain ⟨disk,intact⟩ : s.onDisk folder.path = true ∧ s.corrupt file.folderId = false := by simpa using visible
        cases here : s.library.indices file.folderId with
        | none =>
            rw [here] at stored
            cases stored
        | some index =>
            rw [here] at stored small
            obtain ⟨taken,rest,padding,whole,length,-,answer,-⟩ := (exact index (topK * 5)).parts
            -- Nothing is left over.
            have none : rest = [] := by
              apply List.length_eq_zero_iff.mp
              have sum := whole.length_eq
              rw [List.length_append] at sum
              have few : index.length ≤ topK * 5 := small
              omega
            rw [none,List.append_nil] at whole
            have answered : ((entry.1 : Int),score entry.2) ∈ queryInternal search s folder.id (topK * 5) := by
              unfold queryInternal
              rw [mine,here]
              dsimp only
              rw [intact,if_neg (by decide),mem_descending,answer.mem_iff,List.mem_append]
              exact .inl (List.mem_map.mpr ⟨entry,whole.symm.subset stored,rfl⟩)
            obtain ⟨item,kept,same⟩ := dedupe_covers answered (List.not_mem_nil)
            refine ⟨item.2,List.mem_flatMap.mpr ⟨folder,there,?_⟩⟩
            unfold reachedIn
            rw [disk]
            apply List.mem_filterMap.mpr
            refine ⟨item,kept,?_⟩
            have found : rowOf s folder.id item.1 = .some file := by
              have hit : (file.folderId = folder.id && file.status = .indexed && hasClip file item.1) = true := by
                rw [same]
                simp [mine,indexed,clip]
              cases located : rowOf s folder.id item.1 with
              | none => exact absurd hit (List.find?_eq_none.mp located file listed)
              | some other =>
                  obtain ⟨listed',-,-,clip'⟩ := rowOf_parts located
                  rw [same] at clip'
                  rw [clip_unique listed' listed clip' clip]
            rw [found]
            rfl
  · cases scored

end Results

def flatSearch (score : Vector → Score) (worst : Score) (index : IndexFile Vector) (k : Nat) : List (Int × Score) :=
  ((descending (fun entry => score entry.2) index).take k).map (fun entry => ((entry.1 : Int),score entry.2)) ++
    List.replicate (k - index.length) (-1,worst)

theorem flatSearch_exact (worst : Score) (index : IndexFile Vector) (k : Nat) :
    TopEntries score index k (flatSearch score worst index k) := by
  have ordered := descending_ordered (fun entry => score entry.2) index
  rw [← List.take_append_drop k (descending _ index),List.pairwise_append] at ordered
  refine ⟨(descending (fun entry => score entry.2) index).take k,(descending (fun entry => score entry.2) index).drop k,
    List.replicate (k - index.length) (-1,worst),?_,?_,ordered.2.2,List.Perm.refl _,?_,List.length_replicate⟩
  · rw [List.take_append_drop]
    exact descending_perm
  · rw [List.length_take,descending_perm.length_eq]
  · intro pad member
    rw [List.eq_of_mem_replicate member]

def indexedPhoto (id : Nat) (path : String) : File := ⟨id,path,1,some id,.indexed⟩

def twoPhotos (index : IndexFile Nat) : Searched Nat where
  library := ⟨⟨⟨[⟨1,"/photos",.indexed⟩],by decide⟩,2,
    ⟨[indexedPhoto 1 "/photos/a.jpg",indexedPhoto 2 "/photos/b.jpg"],by decide⟩,3⟩,fun _ => some index⟩
  corrupt := fun _ => false
  onDisk := fun _ => true
  own := by
    intro file member id named
    rcases List.mem_cons.mp member with rfl | member
    · exact Option.some.inj named
    · rcases List.mem_cons.mp member with rfl | none
      · exact Option.some.inj named
      · cases none

-- A vector of a removed file and a second vector of one photo do no harm.
theorem photos_best_matches : BestMatches id (twoPhotos [(9,8),(1,3),(2,6),(1,5)]) [("/photos/b.jpg",6),("/photos/a.jpg",5)] := by
  apply (search_best_matches id (flatSearch id 0) _ .ready _ (flatSearch_exact 0) (by decide +kernel)).mpr
  refine ⟨by decide +kernel,?_⟩
  intro file q live _ unreached
  have small : (readable (twoPhotos [(9,8),(1,3),(2,6),(1,5)]) file.folderId).length ≤ topK * 5 := by
    unfold readable
    split
    · exact Nat.zero_le _
    · split
      · exact Nat.zero_le _
      · exact (by decide : 4 ≤ topK * 5)
  obtain ⟨other,there⟩ := small_index_reached (flatSearch_exact 0) live small
  exact absurd there (unreached other)

-- Five hundred vectors of a photo that was removed, all better than the photo that is there.
theorem stale_vectors_hide : ¬ ∀ (search : IndexFile Nat → Nat → List (Int × Nat)) (s : Searched Nat) (results : List (String × Nat)),
    (∀ index k, TopEntries id index k (search index k)) → searchFolders search .ready s = .ok results →
    BestMatches id s results := by
  intro all
  have none := all (flatSearch id 0) (twoPhotos (List.replicate 500 (9,7) ++ [(1,5)])) [] (flatSearch_exact 0) (by decide +kernel)
  have live : Live id (twoPhotos (List.replicate 500 (9,7) ++ [(1,5)])) (indexedPhoto 1 "/photos/a.jpg") :=
    ⟨List.mem_cons_self,rfl,by decide +kernel⟩
  have some := Finset.card_pos.mpr ⟨_,mem_livePaths.mpr ⟨_,live,rfl⟩⟩
  have counted := none.counted
  have limit : topK = 100 := rfl
  rw [List.length_nil] at counted
  omega

end ImageSearch.SearchMatches
