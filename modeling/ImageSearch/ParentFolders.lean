import ImageSearch.Subtrees

namespace ImageSearch.ParentFolders
open ReferentialStore FileCatalog IndexWorkers FolderEvents FolderPaths Subtrees

def registered (folderPath : String) : String := forwardSlashes (normalizedFolderPath folderPath)

def registration (catalog : Catalog) (folderPath : String) : (Option Folder × Bool) × Catalog :=
  let path := registered folderPath
  let ensure :=
    if catalog.folders.rows.any fun folder => folder.path = path then ((getFolderByPath catalog path,false),catalog)
    else ((some ⟨catalog.nextFolderId,path,.scanning⟩,true),insertFolder catalog path)
  match matchParentFolder catalog path with
  | some parent => if isSameFolderPath parent.path path then ensure else ((some parent,false),catalog)
  | none => ensure

-- On Windows a backslash separates the names of a path too.
def spelt (windows : Bool) (path : String) : List Char := if windows then (forwardSlashes path).toList else path.toList

def trail (windows : Bool) (path : String) : List (List Char) :=
  Subtrees.components (rstrip (fun c => c = '/') (spelt windows path))

-- The folder is the path itself or an ancestor of it, name by name.
def Around (windows : Bool) (folderPath path : String) : Prop := trail windows folderPath <+: trail windows path

instance {windows : Bool} {folderPath path : String} : Decidable (Around windows folderPath path) :=
  inferInstanceAs (Decidable (_ <+: _))

def Found (windows : Bool) (catalog : Catalog) (path : String) : Prop :=
  match matchParentFolder catalog path with
  | some folder => folder ∈ catalog.folders.rows ∧ Around windows folder.path path ∧
      ∀ other ∈ catalog.folders.rows, Around windows other.path path → other.path.length ≤ folder.path.length
  | none => ∀ other ∈ catalog.folders.rows, ¬Around windows other.path path

def Stored (folderPath : String) : Prop :=
  folderPath ≠ "" ∧ '\\' ∉ folderPath.toList ∧ (folderPath.toList = rstrip (fun c => c = '/') folderPath.toList ∨
    folderPath.toList = rstrip (fun c => c = '/') folderPath.toList ++ ['/'])

instance {folderPath : String} : Decidable (Stored folderPath) := inferInstanceAs (Decidable (_ ∧ _))

-- Read as a pattern, the folder's path matches a beginning of the path.
def Likely (folderPath path : String) : Prop := Resembling folderPath.toList (forwardSlashes path).toList

def Before (rows : List Folder) (one two : Folder) : Prop := ∃ front back, rows = front ++ two :: back ∧ one ∈ front

def Outranks (catalog : Catalog) (one two : Folder) : Prop :=
  two.path.length < one.path.length ∨ (two.path.length = one.path.length ∧ Before catalog.folders.rows one two)

-- A folder that matches the path without being around it is outranked by one that is.
def Unmistaken (windows : Bool) (catalog : Catalog) (path : String) : Prop :=
  ∀ folder ∈ catalog.folders.rows, Likely folder.path path → ¬Around windows folder.path path →
    ∃ other ∈ catalog.folders.rows, Around windows other.path path ∧ Likely other.path path ∧ Outranks catalog other folder

-- No folder is the path itself but for a slash that the path lacks.
def Closed (windows : Bool) (catalog : Catalog) (path : String) : Prop :=
  ∀ folder ∈ catalog.folders.rows, folder.path.toList ≠ spelt windows path ++ ['/']

-- Something is around a folder to be registered that a registered folder matches.
def Recognised (windows : Bool) (catalog : Catalog) (path : String) : Prop :=
  ∀ folder ∈ catalog.folders.rows, Likely folder.path path →
    ∃ other ∈ catalog.folders.rows, Around windows other.path path

-- The folder to be registered is not there without its slash only, where it would be matched.
def Respelt (windows : Bool) (catalog : Catalog) (path : String) : Prop :=
  ∀ folder ∈ catalog.folders.rows, normalizedFolderPath folder.path = path →
    (∃ other ∈ catalog.folders.rows, other.path = path) ∨
    ∃ other ∈ catalog.folders.rows, Likely other.path path ∧ ¬Around windows other.path path ∧ Outranks catalog other folder

variable {windows : Bool} {catalog : Catalog} {path folderPath : String} {folder : Folder}

section Lists
variable {Row : Type*} {size : Row → Nat} {rows : List Row} {row : Row}

-- A stable sort leaves the first of the largest at the head.
theorem head_first (first : (rows.insertionSort fun one two => size two ≤ size one).head? = some row) :
    ∃ front back, rows = front ++ row :: back ∧ (∀ other ∈ front, size other < size row) ∧
      ∀ other ∈ back, size other ≤ size row := by
  induction rows generalizing row with
  | nil => cases first
  | cons head rows ih =>
      rw [List.insertionSort_cons] at first
      cases sorted : rows.insertionSort fun one two => size two ≤ size one with
      | nil =>
          have empty : rows = [] := by
            apply List.length_eq_zero_iff.mp
            rw [← List.length_insertionSort (fun one two : Row => size two ≤ size one),sorted]
            rfl
          rw [sorted] at first
          cases first
          exact ⟨[],[],by rw [empty]; rfl,nofun,nofun⟩
      | cons top rest =>
          obtain ⟨front,back,whole,above,below⟩ := ih (by rw [sorted]; rfl)
          rw [sorted,List.orderedInsert] at first
          split at first
          · rename_i lower
            cases first
            refine ⟨[],rows,rfl,nofun,?_⟩
            intro other member
            rw [whole,List.mem_append,List.mem_cons] at member
            rcases member with early | rfl | late
            · exact (above other early).le.trans lower
            · exact lower
            · exact (below other late).trans lower
          · rename_i higher
            cases first
            refine ⟨head :: front,back,by rw [whole]; rfl,?_,below⟩
            intro other member
            rcases List.mem_cons.mp member with rfl | early
            · exact Nat.not_le.mp higher
            · exact above other early

theorem filter_split {wanted : Row → Bool} {front back : List Row} (whole : rows.filter wanted = front ++ row :: back) :
    ∃ before after, rows = before ++ row :: after ∧ before.filter wanted = front ∧ after.filter wanted = back := by
  obtain ⟨before,after,rfl,first,second⟩ := List.filter_eq_append_iff.mp whole
  obtain ⟨skipped,rest,rfl,none,kept,last⟩ := List.filter_eq_cons_iff.mp second
  refine ⟨before ++ skipped,rest,by rw [List.append_assoc],?_,last⟩
  rw [List.filter_append,first,List.filter_eq_nil_iff.mpr none,List.append_nil]

end Lists

theorem matched_first (matched : matchParentFolder catalog path = some folder) :
    ∃ front back, catalog.folders.rows = front ++ folder :: back ∧ Likely folder.path path ∧
      (∀ other ∈ front, Likely other.path path → other.path.length < folder.path.length) ∧
      ∀ other ∈ back, Likely other.path path → other.path.length ≤ folder.path.length := by
  obtain ⟨front,back,whole,above,below⟩ := head_first matched
  obtain ⟨before,after,rows,first,last⟩ := filter_split whole
  have listed : folder ∈ catalog.folders.rows.filter fun folder =>
      like (folder.path.toList ++ ['%']) (forwardSlashes path).toList := by
    rw [whole]
    exact List.mem_append_right _ List.mem_cons_self
  refine ⟨before,after,rows,like_opening.mp (List.mem_filter.mp listed).2,?_,?_⟩
  · intro other member likely
    apply above
    rw [← first]
    exact List.mem_filter.mpr ⟨member,like_opening.mpr likely⟩
  · intro other member likely
    apply below
    rw [← last]
    exact List.mem_filter.mpr ⟨member,like_opening.mpr likely⟩

theorem unmatched (none : matchParentFolder catalog path = none) : ∀ folder ∈ catalog.folders.rows, ¬Likely folder.path path := by
  intro folder member likely
  have unlike := match_none none folder member
  rw [like_opening.mpr likely] at unlike
  cases unlike

theorem matched_row (matched : matchParentFolder catalog path = some folder) :
    folder ∈ catalog.folders.rows ∧ Likely folder.path path := by
  obtain ⟨front,back,rows,likely,-⟩ := matched_first matched
  exact ⟨by rw [rows]; exact List.mem_append_right _ List.mem_cons_self,likely⟩

theorem matched_longest (matched : matchParentFolder catalog path = some folder) {other : Folder}
    (member : other ∈ catalog.folders.rows) (likely : Likely other.path path) : other.path.length ≤ folder.path.length := by
  obtain ⟨front,back,rows,-,above,below⟩ := matched_first matched
  rw [rows,List.mem_append,List.mem_cons] at member
  rcases member with early | rfl | late
  · exact (above other early likely).le
  · exact Nat.le_refl _
  · exact below other late likely

theorem matched_outranks (matched : matchParentFolder catalog path = some folder) {other : Folder}
    (member : other ∈ catalog.folders.rows) (likely : Likely other.path path) (another : other ≠ folder) :
    Outranks catalog folder other := by
  obtain ⟨front,back,rows,-,above,below⟩ := matched_first matched
  rw [rows,List.mem_append,List.mem_cons] at member
  rcases member with early | rfl | late
  · exact .inl (above other early likely)
  · exact absurd rfl another
  · rcases (below other late likely).eq_or_lt with same | shorter
    · obtain ⟨between,rest,rfl⟩ := List.append_of_mem late
      refine .inr ⟨same,front ++ folder :: between,rest,by rw [rows,List.append_assoc]; rfl,?_⟩
      exact List.mem_append_right _ List.mem_cons_self
    · exact .inl shorter

theorem rows_nodup : catalog.folders.rows.Nodup := catalog.folders.distinct.of_map _

theorem matched_highest (matched : matchParentFolder catalog path = some folder) {other : Folder}
    (likely : Likely other.path path) (outranks : Outranks catalog other folder) (member : other ∈ catalog.folders.rows) : False := by
  rcases outranks with longer | ⟨same,start,rest,split,early⟩
  · exact absurd (matched_longest matched member likely) (Nat.not_le.mpr longer)
  · obtain ⟨front,back,rows,-,above,-⟩ := matched_first matched
    have distinct := @rows_nodup catalog
    have absent : folder ∉ front ∧ folder ∉ back := by
      rw [rows,List.nodup_middle,List.nodup_cons,List.mem_append,not_or] at distinct
      exact distinct.1
    obtain ⟨equal,-⟩ := (List.append_cons_inj_of_notMem absent.1 absent.2).mp (rows.symm.trans split)
    have shorter := above other (equal ▸ early) likely
    omega

section Spellings
variable {text : List Char}

theorem forward_unix (unix : '\\' ∉ path.toList) : (forwardSlashes path).toList = path.toList := by
  unfold forwardSlashes
  rw [String.toList_ofList,slashes_unix unix]

theorem spelt_unix (unix : '\\' ∉ path.toList) : spelt windows path = path.toList := by
  cases windows with
  | false => rfl
  | true => exact forward_unix unix

theorem spelt_forward (unix : '\\' ∉ folderPath.toList) (inside : folderPath.toList <+: spelt windows path) :
    folderPath.toList <+: (forwardSlashes path).toList := by
  cases windows with
  | true => exact inside
  | false =>
      have turned := inside.map fun c => if c = '\\' then '/' else c
      rw [slashes_unix unix] at turned
      unfold forwardSlashes
      rw [String.toList_ofList]
      exact turned

theorem stripped_prefix : rstrip (fun c => c = '/') text <+: text := by
  obtain ⟨k,whole⟩ := rstrip_slashes text
  exact ⟨_,whole.symm⟩

theorem around_iff (unix : '\\' ∉ folderPath.toList) : Around windows folderPath path ↔
    rstrip (fun c => c = '/') folderPath.toList = rstrip (fun c => c = '/') (spelt windows path) ∨
      rstrip (fun c => c = '/') folderPath.toList ++ ['/'] <+: rstrip (fun c => c = '/') (spelt windows path) := by
  unfold Around trail
  rw [spelt_unix unix,components_within]

-- A path begins with the folders around it, but for the closing slash of the path itself.
theorem around_spelt (stored : Stored folderPath) (around : Around windows folderPath path) :
    folderPath.toList <+: spelt windows path ∨ folderPath.toList = spelt windows path ++ ['/'] := by
  obtain ⟨-,unix,ends⟩ := stored
  rcases (around_iff unix).mp around with same | inside
  · rcases ends with bare | slash
    · left
      rw [bare,same]
      exact stripped_prefix
    · rw [same] at slash
      obtain ⟨k,whole⟩ := rstrip_slashes (spelt windows path)
      cases k with
      | zero =>
          rw [List.replicate_zero,List.append_nil] at whole
          rw [← whole] at slash
          exact .inr slash
      | succ k =>
          left
          rw [slash]
          refine ⟨List.replicate k '/',?_⟩
          rw [List.append_assoc]
          exact whole.symm
  · left
    refine List.IsPrefix.trans ?_ (inside.trans stripped_prefix)
    rcases ends with bare | slash
    · exact bare ▸ List.prefix_append _ _
    · exact slash ▸ List.prefix_rfl

theorem stripped_slash : rstrip (fun c => c = '/') (text ++ ['/']) = rstrip (fun c => c = '/') text := by
  unfold rstrip
  rw [List.reverse_append,List.reverse_singleton,List.singleton_append,List.dropWhile_cons_of_pos (by decide)]

theorem bare_around (unix : '\\' ∉ folderPath.toList) (bare : folderPath.toList = spelt windows path ++ ['/']) :
    Around windows folderPath path := by
  refine (around_iff unix).mpr (.inl ?_)
  rw [bare,stripped_slash]

theorem bare_unlikely (unix : '\\' ∉ folderPath.toList) (bare : folderPath.toList = spelt windows path ++ ['/']) :
    ¬Likely folderPath path := by
  intro likely
  have few := resembling_slashes likely
  have same : (forwardSlashes path).toList = spelt windows path := by
    cases windows with
    | true => rfl
    | false =>
        apply forward_unix
        intro there
        apply unix
        rw [bare]
        exact List.mem_append_left _ there
  rw [bare,same,List.count_append] at few
  have one : List.count '/' ['/'] = 1 := rfl
  omega

theorem bare_longest {other : String} (stored : Stored other) (around : Around windows other path)
    (bare : folderPath.toList = spelt windows path ++ ['/']) (longer : folderPath.length ≤ other.length) :
    other.toList = folderPath.toList := by
  rcases around_spelt stored around with inside | same
  · have shorter := inside.length_le
    have length := congrArg List.length bare
    rw [List.length_append,List.length_singleton] at length
    rw [← String.length_toList,← String.length_toList] at longer
    omega
  · rw [same,bare]

end Spellings

theorem matched_around (unmistaken : Unmistaken windows catalog path) (matched : matchParentFolder catalog path = some folder) :
    Around windows folder.path path := by
  obtain ⟨member,likely⟩ := matched_row matched
  by_contra apart
  obtain ⟨other,there,-,likely',outranks⟩ := unmistaken folder member likely apart
  exact matched_highest matched likely' outranks there

theorem around_unmistaken (right : ∀ folder ∈ matchParentFolder catalog path, Around windows folder.path path) :
    Unmistaken windows catalog path := by
  intro folder member likely apart
  cases matched : matchParentFolder catalog path with
  | none => exact absurd likely (unmatched matched folder member)
  | some found =>
      obtain ⟨there,likely'⟩ := matched_row matched
      have around := right found matched
      refine ⟨found,there,around,likely',matched_outranks matched member likely ?_⟩
      rintro rfl
      exact apart around

theorem found_iff (stored : ∀ folder ∈ catalog.folders.rows, Stored folder.path) :
    Found windows catalog path ↔ Closed windows catalog path ∧ Unmistaken windows catalog path := by
  unfold Found
  constructor
  · intro found
    constructor
    · intro folder member bare
      have around := bare_around (stored folder member).2.1 bare
      cases matched : matchParentFolder catalog path with
      | none =>
          rw [matched] at found
          exact found folder member around
      | some chosen =>
          rw [matched] at found
          obtain ⟨there,inside,longest⟩ := found
          have same := bare_longest (stored chosen there) inside bare (longest folder member around)
          exact bare_unlikely (stored chosen there).2.1 (same.trans bare) (matched_row matched).2
    · apply around_unmistaken
      intro folder matched
      have matched : matchParentFolder catalog path = some folder := matched
      rw [matched] at found
      exact found.2.1
  · rintro ⟨closed,unmistaken⟩
    have likely : ∀ folder ∈ catalog.folders.rows, Around windows folder.path path → Likely folder.path path := by
      intro folder member around
      rcases around_spelt (stored folder member) around with inside | bare
      · exact resembling_self (spelt_forward (stored folder member).2.1 inside)
      · exact absurd bare (closed folder member)
    cases matched : matchParentFolder catalog path with
    | none => exact fun other there around => unmatched matched other there (likely other there around)
    | some folder =>
        refine ⟨(matched_row matched).1,matched_around unmistaken matched,?_⟩
        exact fun other there around => matched_longest matched there (likely other there around)

theorem grouped_iff : (∀ group ∈ groupFile catalog [] path, Around windows group.1.path path) ↔ Unmistaken windows catalog path := by
  unfold groupFile
  constructor
  · intro right
    apply around_unmistaken
    intro folder matched
    have matched : matchParentFolder catalog path = some folder := matched
    rw [matched] at right
    exact right (folder,[path]) List.mem_cons_self
  · intro unmistaken group member
    cases matched : matchParentFolder catalog path with
    | none =>
        rw [matched] at member
        cases member
    | some folder =>
        rw [matched] at member
        rw [List.mem_singleton.mp member]
        exact matched_around unmistaken matched

theorem stripped_open (text : List Char) : (rstrip (fun c => c = '/') text).getLast? ≠ some '/' := by
  rw [show rstrip (fun c => c = '/') text = text.rdropWhile fun c => c = '/' from rfl]
  intro ends
  have some : text.rdropWhile (fun c => c = '/') ≠ [] := by
    intro empty
    rw [empty] at ends
    cases ends
  have last := List.rdropWhile_last_not (fun c => decide (c = '/')) text some
  rw [List.getLast?_eq_some_getLast some] at ends
  exact last (decide_eq_true (Option.some.inj ends))

theorem around_closed (stored : Stored folderPath) (around : Around windows folderPath path) (unix : '\\' ∉ path.toList)
    (slash : path.toList.getLast? = some '/') : folderPath.toList <+: path.toList := by
  have whole := around_spelt stored around
  rw [spelt_unix unix] at whole
  refine whole.resolve_right fun bare => ?_
  rcases stored.2.2 with open' | closed
  · have last := stripped_open folderPath.toList
    rw [← open',bare,List.getLast?_concat] at last
    exact last rfl
  · rw [bare] at closed
    have last := stripped_open (path.toList ++ ['/'])
    rw [← List.append_cancel_right closed] at last
    exact last slash

theorem closed_directory (slash : path.toList.getLast? = some '/') : normalizedFolderPath path = path := by
  unfold normalizedFolderPath
  rw [if_pos slash]

theorem forward_same (unix : '\\' ∉ path.toList) : forwardSlashes path = path := String.toList_injective (forward_unix unix)

theorem same_iff (stored : Stored folderPath) (unix : '\\' ∉ path.toList) (slash : path.toList.getLast? = some '/') :
    isSameFolderPath folderPath path = true ↔ normalizedFolderPath folderPath = path := by
  have named : path ≠ "" := by
    rintro rfl
    cases slash
  unfold isSameFolderPath
  rw [if_neg stored.1,if_neg named,decide_eq_true_eq,forward_same stored.2.1,forward_same unix,closed_directory slash]

theorem registered_slash (folderPath : String) :
    (registered folderPath).toList.getLast? = some '/' := by
  have closed : (normalizedFolderPath folderPath).toList.getLast? = some '/' := directory_ends
  unfold registered forwardSlashes
  rw [String.toList_ofList,List.getLast?_map,closed]
  rfl

theorem forward_clean (path : String) : '\\' ∉ (forwardSlashes path).toList := by
  unfold forwardSlashes
  rw [String.toList_ofList]
  intro there
  obtain ⟨c,-,same⟩ := List.mem_map.mp there
  by_cases back : c = '\\' <;> simp [back] at same

theorem around_same {other : String} (stored : Stored other) (around : Around windows other path) (unix : '\\' ∉ path.toList)
    (slash : path.toList.getLast? = some '/') (open' : normalizedFolderPath folderPath = path)
    (longer : folderPath.length ≤ other.length) : normalizedFolderPath other = path := by
  obtain ⟨rest,whole⟩ := around_closed stored around unix slash
  have size := congrArg List.length whole
  rw [List.length_append,String.length_toList,String.length_toList] at size
  have text : directory folderPath = path.toList := congrArg String.toList open'
  apply String.toList_injective
  change directory other = path.toList
  cases rest with
  | nil =>
      rw [List.append_nil] at whole
      have same := String.toList_injective whole
      subst same
      exact congrArg String.toList (closed_directory slash)
  | cons c rest =>
      rcases directory_cases folderPath with ⟨-,same⟩ | ⟨plain,same⟩
      · rw [text] at same
        have equal := congrArg List.length same
        rw [String.length_toList,String.length_toList] at equal
        rw [List.length_cons] at size
        omega
      · rw [text] at same
        have equal := congrArg List.length same
        rw [List.length_append,List.length_singleton,String.length_toList,String.length_toList] at equal
        have alone : rest = [] := by
          apply List.length_eq_zero_iff.mp
          rw [List.length_cons] at size
          omega
        subst alone
        rw [← whole,List.getLast?_concat] at slash
        cases slash
        rcases directory_cases other with ⟨ends,-⟩ | ⟨-,closed⟩
        · rw [← whole] at same
          rw [← List.append_cancel_right same] at plain
          exact absurd ends plain
        · rw [closed,whole]

theorem normalized_around (stored : Stored folderPath) (unix : '\\' ∉ path.toList)
    (spelling : normalizedFolderPath folderPath = path) : Around windows folderPath path := by
  have text : directory folderPath = path.toList := congrArg String.toList spelling
  refine (around_iff stored.2.1).mpr (.inl ?_)
  rw [spelt_unix unix,← text]
  rcases directory_cases folderPath with ⟨-,same⟩ | ⟨-,same⟩
  · rw [same]
  · rw [same,stripped_slash]

-- A folder is created if its path is not there and none but itself is matched.
theorem created_iff (stored : ∀ folder ∈ catalog.folders.rows, Stored folder.path)
    (same : path = registered folderPath) :
    (registration catalog folderPath).1.2 = true ↔ (∀ folder ∈ catalog.folders.rows, folder.path ≠ path) ∧
      ∀ folder ∈ matchParentFolder catalog path, normalizedFolderPath folder.path = path := by
  have slash : path.toList.getLast? = some '/' := same ▸ registered_slash folderPath
  have unix : '\\' ∉ path.toList := same ▸ forward_clean _
  unfold registration
  rw [← same]
  dsimp only
  have ensured : (if catalog.folders.rows.any fun folder => folder.path = path then
      ((getFolderByPath catalog path,false),catalog)
      else ((some ⟨catalog.nextFolderId,path,.scanning⟩,true),insertFolder catalog path)).1.2 = true ↔
      ∀ folder ∈ catalog.folders.rows, folder.path ≠ path := by
    split
    · rename_i there
      obtain ⟨folder,member,equal⟩ := List.any_eq_true.mp there
      exact ⟨nofun,fun absent => absurd (of_decide_eq_true equal) (absent folder member)⟩
    · rename_i absent
      refine ⟨fun _ folder member equal => absent ?_,fun _ => rfl⟩
      exact List.any_eq_true.mpr ⟨folder,member,decide_eq_true equal⟩
  cases matched : matchParentFolder catalog path with
  | none => exact ensured.trans ⟨fun absent => ⟨absent,nofun⟩,And.left⟩
  | some parent =>
      have itself := same_iff (stored parent (matched_row matched).1) unix slash
      dsimp only
      split
      · rename_i equal
        refine ensured.trans ⟨fun absent => ⟨absent,?_⟩,And.left⟩
        intro folder found
        cases found
        exact itself.mp equal
      · rename_i other
        exact ⟨nofun,fun both => absurd (itself.mpr (both.2 parent rfl)) other⟩

theorem registers_iff (stored : ∀ folder ∈ catalog.folders.rows, Stored folder.path)
    (same : path = registered folderPath) :
    ((registration catalog folderPath).1.2 = true ↔ ∀ folder ∈ catalog.folders.rows, ¬Around windows folder.path path) ↔
      Recognised windows catalog path ∧ Respelt windows catalog path := by
  have slash : path.toList.getLast? = some '/' := same ▸ registered_slash folderPath
  have unix : '\\' ∉ path.toList := same ▸ forward_clean _
  have likely : ∀ folder ∈ catalog.folders.rows, Around windows folder.path path → Likely folder.path path := by
    intro folder member around
    have inside := around_closed (stored folder member) around unix slash
    rw [← forward_unix unix] at inside
    exact resembling_self inside
  have self : ∀ folder ∈ catalog.folders.rows, normalizedFolderPath folder.path = path → Around windows folder.path path :=
    fun folder member spelling => normalized_around (stored folder member) unix spelling
  rw [created_iff stored same]
  constructor
  · intro right
    constructor
    · intro folder member alike
      by_contra alone
      push Not at alone
      obtain ⟨-,itself⟩ := right.mpr alone
      cases matched : matchParentFolder catalog path with
      | none => exact unmatched matched folder member alike
      | some parent =>
          have there := (matched_row matched).1
          exact alone parent there (self parent there (itself parent matched))
    · intro folder member spelling
      by_contra neither
      push Not at neither
      obtain ⟨absent,clear⟩ := neither
      have around := self folder member spelling
      have refused : ¬∀ found ∈ matchParentFolder catalog path, normalizedFolderPath found.path = path :=
        fun itself => right.mp ⟨absent,itself⟩ folder member around
      cases matched : matchParentFolder catalog path with
      | none => exact unmatched matched folder member (likely folder member around)
      | some parent =>
          have other : normalizedFolderPath parent.path ≠ path := by
            intro equal
            apply refused
            intro found taken
            rw [matched] at taken
            cases taken
            exact equal
          obtain ⟨there,alike⟩ := matched_row matched
          have above : Outranks catalog parent folder :=
            matched_outranks matched member (likely folder member around) fun equal => other (equal ▸ spelling)
          by_cases inside : Around windows parent.path path
          · have longer : folder.path.length ≤ parent.path.length := above.elim Nat.le_of_lt fun tie => tie.1.le
            exact other (around_same (stored parent there) inside unix slash spelling longer)
          · exact clear parent there alike inside above
  · rintro ⟨recognised,respelt⟩
    constructor
    · rintro ⟨absent,itself⟩ folder member around
      cases matched : matchParentFolder catalog path with
      | none => exact unmatched matched folder member (likely folder member around)
      | some parent =>
          obtain ⟨there,-⟩ := matched_row matched
          rcases respelt parent there (itself parent matched) with ⟨other,listed,equal⟩ | ⟨other,listed,alike,-,above⟩
          · exact absent other listed equal
          · exact matched_highest matched alike above listed
    · intro alone
      constructor
      · intro folder member equal
        apply alone folder member (self folder member _)
        rw [equal,closed_directory slash]
      · intro parent matched
        obtain ⟨there,alike⟩ := matched_row matched
        obtain ⟨other,listed,around⟩ := recognised parent there alike
        exact absurd around (alone other listed)

theorem parents_found (stored : ∀ folder ∈ catalog.folders.rows, Stored folder.path) :
    (Found windows catalog path ↔ Closed windows catalog path ∧ Unmistaken windows catalog path) ∧
    ((∀ group ∈ groupFile catalog [] path, Around windows group.1.path path) ↔ Unmistaken windows catalog path) ∧
    (((registration catalog folderPath).1.2 = true ↔
        ∀ folder ∈ catalog.folders.rows, ¬Around windows folder.path (registered folderPath)) ↔
      Recognised windows catalog (registered folderPath) ∧ Respelt windows catalog (registered folderPath)) :=
  ⟨found_iff stored,grouped_iff,registers_iff stored rfl⟩

def sampleCatalog : Catalog where
  folders := ⟨[⟨1,"/b/Phone",.scanning⟩,⟨2,"/p/",.scanning⟩],by decide⟩
  nextFolderId := 3
  files := .empty
  nextFileId := 1

theorem sample_found : (matchParentFolder sampleCatalog "/b/Phone/a.jpg").isSome = true ∧
    (Found false sampleCatalog "/b/Phone/a.jpg" ↔
      Closed false sampleCatalog "/b/Phone/a.jpg" ∧ Unmistaken false sampleCatalog "/b/Phone/a.jpg") :=
  ⟨by decide,(@parents_found false sampleCatalog "/b/Phone/a.jpg" "/p/q" (by decide)).1⟩

theorem sibling_matched : ¬Found false sampleCatalog "/b/Phone 2/a.jpg" ∧
    (∀ folder ∈ sampleCatalog.folders.rows, ¬Around false folder.path "/b/Phone 2/a.jpg") ∧
    (∃ group ∈ groupFile sampleCatalog [] "/b/Phone 2/a.jpg", group.1.path = "/b/Phone") ∧
    (registration sampleCatalog "/b/Phone 2").1.2 = false ∧
    ∀ folder ∈ sampleCatalog.folders.rows, ¬Around false folder.path "/b/Phone 2/" := by
  have matched : matchParentFolder sampleCatalog "/b/Phone 2/a.jpg" = some ⟨1,"/b/Phone",.scanning⟩ := by decide
  refine ⟨?_,by decide,⟨(⟨1,"/b/Phone",.scanning⟩,["/b/Phone 2/a.jpg"]),?_,rfl⟩,by decide,by decide⟩
  · intro found
    unfold Found at found
    rw [matched] at found
    exact absurd found.2.1 (by decide)
  · unfold groupFile
    rw [matched]
    exact List.mem_cons_self

end ImageSearch.ParentFolders
