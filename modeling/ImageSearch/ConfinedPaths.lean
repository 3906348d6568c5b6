import ImageSearch.FolderDirectories
import ImageSearch.StoredThenAsked
import ImageSearch.PathNames

namespace ImageSearch.ConfinedPaths
open Payload Tables BackupFolder MobileStore PairingStore TransferService UploadOutcomes StoredThenAsked
open FolderDirectories PathNames
open FileCatalog (forwardSlashes)

section Names
variable {text : List Char} {c : Char}

-- Nothing reserved is left of a name that was substituted and stripped.
theorem clean_slashless : '/' ∉ stripChars isDot (stripChars isSpace (substituteRuns isReserved '-' false text)) := by
  intro member
  rcases mem_substitute (mem_strip (mem_strip member)) with dash | ⟨-,kept⟩
  · cases dash
  · cases kept

theorem clean_unescaped : '\\' ∉ stripChars isDot (stripChars isSpace (substituteRuns isReserved '-' false text)) := by
  intro member
  rcases mem_substitute (mem_strip (mem_strip member)) with dash | ⟨-,kept⟩
  · cases dash
  · cases kept

theorem folder_head (deviceName : String) : (sanitizeFolderName deviceName).head? ≠ some '.' := by
  unfold sanitizeFolderName
  dsimp only
  split
  · decide
  · intro first
    rcases substitute_head first with space | dot
    · cases space
    · exact absurd (stripChars_head dot) (by decide)

theorem folder_chars (deviceName : String) : '/' ∉ sanitizeFolderName deviceName ∧ '\\' ∉ sanitizeFolderName deviceName := by
  unfold sanitizeFolderName
  dsimp only
  split
  · decide
  · refine ⟨?_,?_⟩
    · intro member
      rcases mem_substitute member with space | ⟨kept,-⟩
      · cases space
      · exact clean_slashless kept
    · intro member
      rcases mem_substitute member with space | ⟨kept,-⟩
      · cases space
      · exact clean_unescaped kept

theorem folder_nonempty (deviceName : String) : sanitizeFolderName deviceName ≠ [] := by
  unfold sanitizeFolderName
  dsimp only
  split
  · decide
  · assumption

theorem folder_single (deviceName : String) : SingleName (sanitizeFolderName deviceName) :=
  single_name (folder_nonempty deviceName) (folder_chars deviceName).1 (folder_head deviceName)

theorem device_single (deviceName : String) {deviceUuid : String} (plain : '/' ∉ deviceUuid.toList.take 8) :
    SingleName (deviceFolderName deviceName deviceUuid) := by
  unfold deviceFolderName
  refine single_name (by simp) ?_ ?_
  · simp [(folder_chars deviceName).1,plain]
  · rw [head_append (folder_nonempty deviceName)]
    exact folder_head deviceName

theorem numbered_single (deviceName : String) {deviceUuid : String} (plain : '/' ∉ deviceUuid.toList.take 8) (n : Nat) :
    SingleName (numberedFolderName deviceName deviceUuid n) := by
  unfold numberedFolderName
  have single := device_single deviceName plain
  refine single_name (by simp) ?_ ?_
  · simp [single.slashless,digits_plain n (show '/'.isDigit = false from rfl)]
  · rw [head_append single.nonempty]
    unfold deviceFolderName
    rw [head_append (folder_nonempty deviceName)]
    exact folder_head deviceName

end Names

section Searching
variable {store : Store} {destinationRoot deviceName deviceUuid : String}

def pathParts (text : List Char) : List (List Char) := (text.splitOn '/').filter fun part => part ≠ [] && part ≠ ['.']

theorem parts_suffix (text : List Char) : ∃ parts last, ∀ digits, '/' ∉ digits →
    pathParts (text ++ '-' :: digits) = parts ++ [last ++ '-' :: digits] := by
  have one : ∀ last digits : List Char, '/' ∉ last → '/' ∉ digits →
      pathParts (last ++ '-' :: digits) = [last ++ '-' :: digits] := by
    intro last digits plain plain'
    unfold pathParts
    rw [List.splitOn_eq_singleton (by simp [plain,plain'])]
    apply List.filter_eq_self.mpr
    intro part member
    rw [List.mem_singleton.mp member]
    cases last <;> simp
  by_cases slash : '/' ∈ text
  · obtain ⟨before,last,rfl,plain⟩ : ∃ before last, text = before ++ '/' :: last ∧ '/' ∉ last := by
      obtain ⟨after,before,split,plain⟩ := List.eq_append_cons_of_mem (List.mem_reverse.mpr slash)
      refine ⟨before.reverse,after.reverse,?_,by simpa using plain⟩
      rw [← List.reverse_reverse text,split]
      simp
    refine ⟨pathParts before,last,?_⟩
    intro digits plain'
    rw [← one last digits plain plain']
    unfold pathParts
    rw [List.append_assoc,List.cons_append,List.splitOn_append_cons_self,List.filter_append]
  · exact ⟨[],text,fun digits plain => one text digits slash plain⟩

theorem intercalate_last (parts : List (List Char)) (last : List Char) :
    List.intercalate ['/'] (parts ++ [last]) = (parts.flatMap fun part => part ++ ['/']) ++ last := by
  induction parts with
  | nil => simp [List.intercalate]
  | cons part rest ih =>
      cases rest with
      | nil => simp [List.intercalate]
      | cons next later =>
          rw [List.flatMap_cons,List.append_assoc,← ih]
          simp [List.intercalate,List.intersperse]

theorem joinPath_numbered (root : String) (text : List Char) (i j : Nat)
    (equal : joinPath root (text ++ '-' :: (toString i).toList) = joinPath root (text ++ '-' :: (toString j).toList)) : i = j := by
  obtain ⟨parts,last,ends⟩ := parts_suffix text
  have digits : ∀ n : Nat, '/' ∉ (toString n).toList := by
    intro n
    rw [Nat.toString_eq_repr,Nat.toList_repr]
    exact digits_plain n rfl
  have shape : ∀ n : Nat, joinPath root (text ++ '-' :: (toString n).toList) =
      String.ofList ('/' :: (((pathParts root.toList ++ parts).flatMap fun part => part ++ ['/']) ++ (last ++ '-' :: (toString n).toList))) := by
    intro n
    rw [← intercalate_last,List.append_assoc,← ends _ (digits n)]
    rfl
  rw [shape i,shape j] at equal
  have chars := String.ofList_injective equal
  rw [List.cons.injEq,List.append_cancel_left_eq,List.append_cancel_left_eq,List.cons.injEq] at chars
  have same : Nat.toDigits 10 i = Nat.toDigits 10 j := by
    simpa only [Nat.toString_eq_repr,Nat.toList_repr] using chars.2.2
  have parsed := congrArg (fun text => Nat.ofDigitChars 10 text 0) same
  simpa using parsed

-- The search ends at a free name; more probes than rows are never needed.
theorem unique_free : folderNameFree store destinationRoot (uniqueMobileFolderName store destinationRoot deviceName deviceUuid) = true := by
  unfold uniqueMobileFolderName
  split
  · assumption
  · split
    · assumption
    · let place (n : Nat) : String := joinPath destinationRoot (numberedFolderName deviceName deviceUuid n)
      obtain ⟨k,within,untaken⟩ := FreeNames.some_free (store.folders.rows.map FolderRow.path) place
        (fun i j equal => joinPath_numbered _ _ i j equal) 2
      rw [List.length_map] at within
      let free (n : Nat) : Bool := folderNameFree store destinationRoot (numberedFolderName deviceName deviceUuid n)
      have found : free (2+k) = true := by
        dsimp only [free]
        unfold folderNameFree getExactFolder
        rw [Option.isNone_iff_eq_none,List.find?_eq_none]
        intro row member same
        exact untaken (List.mem_map.mpr ⟨row,member,of_decide_eq_true same⟩)
      exact @FreeNames.search_free free _ 2 k within found

end Searching

section Folders
variable {store : Store} {destinationParent deviceName deviceUuid : String} {updatedAt : DateTime} {directory : Directory}

def chosenName (store : Store) (destinationParent deviceUuid deviceName : String) (directory : Directory) : List Char :=
  uniqueMobileFolderName (dropStaleFolders store deviceUuid) (directory.resolve destinationParent) deviceName deviceUuid

def chosenPath (store : Store) (destinationParent deviceUuid deviceName : String) (directory : Directory) : String :=
  joinPath (directory.resolve destinationParent) (chosenName store destinationParent deviceUuid deviceName directory)

theorem chosen_free : ∀ row ∈ store.folders.rows, row.path ≠ chosenPath store destinationParent deviceUuid deviceName directory := by
  intro row member same
  have free := @unique_free (dropStaleFolders store deviceUuid) (directory.resolve destinationParent) deviceName deviceUuid
  unfold folderNameFree getExactFolder at free
  rw [stale_folders.1,Option.isNone_iff_eq_none] at free
  exact List.find?_eq_none.mp free row member (decide_eq_true same)

-- The device's id is looked at only where the folder of its name is taken.
theorem chosen_single : SingleName (chosenName store destinationParent deviceUuid deviceName directory) ↔
    folderNameFree (dropStaleFolders store deviceUuid) (directory.resolve destinationParent) (sanitizeFolderName deviceName) = true ∨
      '/' ∉ deviceUuid.toList.take 8 := by
  unfold chosenName uniqueMobileFolderName
  split
  · rename_i free
    exact ⟨fun _ => .inl free,fun _ => folder_single deviceName⟩
  · rename_i taken
    split
    · constructor
      · intro single
        right
        intro slash
        refine single.slashless ?_
        unfold deviceFolderName
        exact List.mem_append_right _ (List.mem_cons_of_mem _ slash)
      · intro plain
        exact device_single deviceName (plain.resolve_left taken)
    · constructor
      · intro single
        right
        intro slash
        refine single.slashless ?_
        unfold numberedFolderName deviceFolderName
        exact List.mem_append_left _ (List.mem_append_right _ (List.mem_cons_of_mem _ slash))
      · intro plain
        exact numbered_single deviceName (plain.resolve_left taken) _

theorem inserted_rows {path : String} (fresh : ∀ row ∈ store.folders.rows, row.id < store.nextFolderId)
    (absent : ∀ row ∈ store.folders.rows, row.path ≠ forwardSlashes path) :
    ⟨store.nextFolderId,forwardSlashes path⟩ ∈ (PairingStore.insertFolder store path).2.folders.rows := by
  have none : getExactFolder store (forwardSlashes path) = none := by
    refine List.find?_eq_none.mpr ?_
    intro row member same
    exact absent row member (of_decide_eq_true same)
  have unused : store.nextFolderId ∉ store.folders.rows.map FolderRow.id := by
    intro used
    obtain ⟨row,member,same⟩ := List.mem_map.mp used
    exact absurd (fresh row member) (by omega)
  have made : (PairingStore.insertFolder store path).2.folders =
      store.folders.upsert ⟨store.nextFolderId,forwardSlashes path⟩ id fun _ => rfl := by
    unfold forwardSlashes at none
    unfold PairingStore.insertFolder
    simp only [none]
    rfl
  rw [made,upsert_fresh unused]
  exact List.mem_append_right _ List.mem_cons_self

theorem chosen_inserted (fresh : ∀ row ∈ store.folders.rows, row.id < store.nextFolderId)
    (unbound : boundFolder (dropStaleFolders store deviceUuid) deviceUuid = none) (made : directory.refused = none) :
    (∃ row ∈ (getOrCreateMobileFolder store destinationParent deviceUuid deviceName updatedAt directory).2.folders.rows,
      row.path = chosenPath store destinationParent deviceUuid deviceName directory) ↔
    forwardSlashes (directory.resolve (chosenPath store destinationParent deviceUuid deviceName directory)) =
      chosenPath store destinationParent deviceUuid deviceName directory := by
  constructor
  · rintro ⟨row,member,path⟩
    rcases pair_adds row member with old | ⟨inserted,here,rfl,-⟩
    · exact absurd path (chosen_free row old)
    · unfold pairedPath at here
      simp only [unbound,made,Option.isSome_none,Bool.or_self,Bool.false_eq_true,if_false,Option.mem_some_iff] at here
      subst here
      exact path
  · intro resolved
    obtain ⟨same,next⟩ := @stale_folders store deviceUuid
    have calls : (getOrCreateMobileFolder store destinationParent deviceUuid deviceName updatedAt directory).2.folders =
        (PairingStore.insertFolder (dropStaleFolders store deviceUuid)
          (mobileFolderPath (dropStaleFolders store deviceUuid) destinationParent deviceUuid deviceName directory)).2.folders := by
      unfold getOrCreateMobileFolder
      simp only [unbound,made]
      exact bind_folders
    have path : forwardSlashes (mobileFolderPath (dropStaleFolders store deviceUuid) destinationParent deviceUuid deviceName directory) =
        chosenPath store destinationParent deviceUuid deviceName directory := resolved
    rw [calls]
    refine ⟨_,inserted_rows ?_ ?_,path⟩
    · rw [same,next]
      exact fresh
    · rw [path,same]
      exact chosen_free

end Folders

section Assets
variable {lib : Libraries} {call : UploadCall} {d next : Desktop} {metadata : MobileTransferAssetMetadata} {filename : List Char}

theorem filename_single (filename : String) : SingleName (sanitizeFilename filename) := by
  refine single_name ?_ ?_ (sanitize_head filename)
  · unfold sanitizeFilename
    dsimp only
    split
    · decide
    · assumption
  · unfold sanitizeFilename
    dsimp only
    split
    · decide
    · exact clean_slashless

theorem candidate_single (single : SingleName filename) (named : filename.head? ≠ some '.') (attemptNumber : Nat) :
    SingleName (candidateName filename attemptNumber).toList := by
  refine single_name ?_ ?_ (candidate_head named attemptNumber)
  · simp [candidateName]
  · intro slash
    unfold candidateName at slash
    rw [String.toList_ofList,Nat.toString_eq_repr,Nat.toList_repr] at slash
    rcases List.mem_append.mp slash with front | tail
    · rcases List.mem_append.mp front with inStem | rest
      · exact single.slashless (mem_stem inStem)
      · rcases List.mem_cons.mp rest with dash | digit
        · cases dash
        · exact digits_plain attemptNumber rfl digit
    · exact single.slashless (mem_suffix tail)

theorem resolve_single (files : Files) (folderPath monthDirectory filename : String) :
    SingleName (resolveConflictSafePath files folderPath monthDirectory (sanitizeFilename filename)).name.toList := by
  unfold resolveConflictSafePath
  split
  · rw [String.toList_ofList]
    exact filename_single filename
  · exact candidate_single (filename_single filename) (sanitize_head filename) _

theorem stored_confined {response : Response} (answered : handleAssetUpload lib call d = (.ok response,next))
    (code : response.statusCode = 200) (status : response.status = .stored) :
    ∃ metadata context name, Accepted lib call d metadata context ∧ SingleName name ∧
      response.localRelativePath = some ⟨targetMonthDirectory metadata call.currentTime,String.ofList name⟩ ∧
      fileExists d.files (.asset context.folderPath ⟨targetMonthDirectory metadata call.currentTime,String.ofList name⟩) = false ∧
      fileExists next.files (.asset context.folderPath ⟨targetMonthDirectory metadata call.currentTime,String.ofList name⟩) = true := by
  obtain ⟨metadata,context,stored,files,stores,rfl⟩ := stored_parts answered code status
  have effect : StoreEffect lib call metadata context.folderPath d.files
    (storeAssetFile lib call metadata context.folderPath d.files).1
    (storeAssetFile lib call metadata context.folderPath d.files).2 := store_effect
  rw [stores.written] at effect
  obtain ⟨-,placed,content,-,-,there,-⟩ := effect.stored stored rfl
  have place : targetPath call metadata context.folderPath d.files = ⟨targetMonthDirectory metadata call.currentTime,
      String.ofList (targetPath call metadata context.folderPath d.files).name.toList⟩ := by
    have month : (targetPath call metadata context.folderPath d.files).monthDirectory = targetMonthDirectory metadata call.currentTime :=
      resolve_month _ _ _ _
    rw [String.ofList_toList,← month]
  refine ⟨metadata,context,(targetPath call metadata context.folderPath d.files).name.toList,stores.accepted,
    resolve_single _ _ _ _,?_,?_,?_⟩
  · rw [← place,← placed]
    rfl
  · rw [← place]
    exact target_free
  · rw [← place,stores.state]
    dsimp only
    rw [fileExists,there]
    rfl

end Assets

-- The folder of a new device is the one of its chosen name, a child of the destination root
-- that no row names, exactly if the id's first characters are not used or hold no slash, and
-- the path resolves to itself; what is stored in it lies in the month's directory; and the
-- searches end.
theorem backup_confined (store : Store) (destinationParent deviceUuid deviceName : String) (updatedAt : DateTime)
    (directory : Directory) (fresh : ∀ row ∈ store.folders.rows, row.id < store.nextFolderId)
    (unbound : boundFolder (dropStaleFolders store deviceUuid) deviceUuid = none) (made : directory.refused = none) :
    ((SingleName (chosenName store destinationParent deviceUuid deviceName directory) ∧
        (∃ row ∈ (getOrCreateMobileFolder store destinationParent deviceUuid deviceName updatedAt directory).2.folders.rows,
          row.path = chosenPath store destinationParent deviceUuid deviceName directory) ∧
        ∀ row ∈ store.folders.rows, row.path ≠ chosenPath store destinationParent deviceUuid deviceName directory) ↔
      (folderNameFree (dropStaleFolders store deviceUuid) (directory.resolve destinationParent) (sanitizeFolderName deviceName) = true ∨
        '/' ∉ deviceUuid.toList.take 8) ∧
      forwardSlashes (directory.resolve (chosenPath store destinationParent deviceUuid deviceName directory)) =
        chosenPath store destinationParent deviceUuid deviceName directory) ∧
    (∀ lib call d response next, handleAssetUpload lib call d = (.ok response,next) → response.statusCode = 200 →
      response.status = .stored → ∃ metadata context name, Accepted lib call d metadata context ∧ SingleName name ∧
        response.localRelativePath =
          some ⟨strftimeYearMonth ((metadata.createdAt.or metadata.updatedAt).getD call.currentTime),String.ofList name⟩ ∧
        fileExists d.files (.asset context.folderPath ⟨targetMonthDirectory metadata call.currentTime,String.ofList name⟩) = false ∧
        fileExists next.files (.asset context.folderPath ⟨targetMonthDirectory metadata call.currentTime,String.ofList name⟩) = true) ∧
    folderNameFree (dropStaleFolders store deviceUuid) (directory.resolve destinationParent)
      (chosenName store destinationParent deviceUuid deviceName directory) = true ∧
    ∀ files folderPath monthDirectory filename,
      fileExists files (.asset folderPath (resolveConflictSafePath files folderPath monthDirectory filename)) = false := by
  refine ⟨?_,fun lib call d response next answered code status => stored_confined answered code status,unique_free,resolve_free⟩
  rw [chosen_single,chosen_inserted fresh unbound made]
  constructor
  · rintro ⟨plain,resolved,-⟩
    exact ⟨plain,resolved⟩
  · rintro ⟨plain,resolved⟩
    exact ⟨plain,resolved,chosen_free⟩

-- Path.resolve of an absolute path where there are no symbolic links.
def lexicalResolve (path : String) : String :=
  String.ofList ('/' :: List.intercalate ['/'] ((pathParts path.toList).foldl (fun done part =>
    if part = ['.','.'] then done.dropLast else done ++ [part]) []))

def plainDirectory : Directory := ⟨lexicalResolve,none⟩

theorem folder_kept (row : FolderRow) : (id row).id = row.id := rfl

def phoneStore : Store := {emptyStore with
  folders:=.upsert .empty ⟨0,"/home/backup/Phone"⟩ id folder_kept
  nextFolderId:=1}

-- The phone's name is taken, so its id goes into the path, and leads out of the root.
theorem folder_escapes : ∃ row ∈ (getOrCreateMobileFolder phoneStore "/home/backup" "/../../e" "Phone" 0 plainDirectory).2.folders.rows,
    row ∉ phoneStore.folders.rows ∧ row.path = "/home/e" ∧
    ∀ name, SingleName name → row.path ≠ joinPath "/home/backup" name := by
  refine ⟨⟨1,"/home/e"⟩,by decide +kernel,by decide +kernel,rfl,?_⟩
  intro name single equal
  have parts : pathParts name = [name] := by
    unfold pathParts
    rw [List.splitOn_eq_singleton single.slashless]
    simp [single.nonempty,single.dot]
  have joined : joinPath "/home/backup" name = String.ofList ("/home/backup/".toList ++ name) := by
    have shape : joinPath "/home/backup" name = String.ofList ('/' :: List.intercalate ['/'] ([['h','o','m','e'],['b','a','c','k','u','p']] ++ pathParts name)) := rfl
    rw [shape,parts,intercalate_last]
    rfl
  rw [joined] at equal
  have sixth := congrArg (fun path : String => path.toList[6]?) equal
  simp at sixth

theorem folder_beside : (∃ row ∈ (getOrCreateMobileFolder phoneStore "/home/backup" "0A1B2C3D-4E5F" "Phone" 0 plainDirectory).2.folders.rows,
    row.path = "/home/backup/Phone-0A1B2C3D") ∧ SingleName "Phone-0A1B2C3D".toList := by
  have confined := (backup_confined phoneStore "/home/backup" "0A1B2C3D-4E5F" "Phone" 0 plainDirectory (by decide +kernel) (by decide +kernel)
    rfl).1.mpr ⟨.inr (by decide),by decide +kernel⟩
  have name : chosenName phoneStore "/home/backup" "0A1B2C3D-4E5F" "Phone" plainDirectory = "Phone-0A1B2C3D".toList := by decide +kernel
  have path : chosenPath phoneStore "/home/backup" "0A1B2C3D-4E5F" "Phone" plainDirectory = "/home/backup/Phone-0A1B2C3D" := by decide +kernel
  rw [name,path] at confined
  exact ⟨confined.2.1,confined.1⟩

end ImageSearch.ConfinedPaths
