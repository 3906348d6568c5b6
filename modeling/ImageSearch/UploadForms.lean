import ImageSearch.UploadOutcomes

namespace ImageSearch.UploadForms
open Payload BackupFolder MobileStore TransferService UploadOutcomes

-- The reads bring the body, in chunks no longer than asked for; the ones after it are not made.
inductive Delivers : List (Except OSError Bytes) → Bytes → Prop where
  | done {reads : List (Except OSError Bytes)} : Delivers reads []
  | chunk {bytes later : Bytes} {reads : List (Except OSError Bytes)} (some : bytes ≠ [])
      (asked : bytes.length ≤ streamChunkSizeBytes) (rest : Delivers reads later) : Delivers (.ok bytes :: reads) (bytes ++ later)

def streamedCall (call : UploadCall) (reads : List (Except OSError Bytes)) (body : Bytes) : UploadCall :=
  {call with
    bodyStream:=some reads
    contentLength:=body.length
    tempFilePath:=none
    contentSha1:=none
    faults:=fun _ => none}

def stagedCall (lib : Libraries) (call : UploadCall) (staged : String) (body : Bytes) : UploadCall :=
  {call with
    bodyStream:=none
    contentLength:=body.length
    tempFilePath:=some staged
    contentSha1:=some (lib.sha1 body)
    faults:=fun _ => none}

def withStaged (d : Desktop) (staged : String) (body : Bytes) : Desktop :=
  {d with files:=writeFile d.files (.staged staged) body}

def SameFolders (files files' : Files) : Prop :=
  ∀ folderPath path, readFile files' (.asset folderPath path) = readFile files (.asset folderPath path)

structure Agree (one two : Except Raised Response × Desktop) : Prop where
  answer : one.1 = two.1
  store : one.2.store = two.2.store
  folders : SameFolders one.2.files two.2.files
  published : one.2.published = two.2.published

def Unused (files : Files) (partToken : String) : Prop :=
  ∀ folderPath monthDirectory name, readFile files (.asset folderPath ⟨monthDirectory,partName name partToken⟩) = none

-- A body that comes to be stored has the digest that its metadata declares, if they do.
def Truthful (lib : Libraries) (call : UploadCall) (body : Bytes) (d : Desktop) : Prop :=
  ∀ metadata context, checkUpload lib call d.store = .passed metadata context →
    existingSignatureAsset d metadata = .ok none → existingAssetVersion d metadata context.folderPath = none →
    ∀ expected, metadata.contentSha1 = some expected → lib.sha1 body = lower expected

variable {lib : Libraries} {call : UploadCall} {reads : List (Except OSError Bytes)} {body : Bytes} {staged : String}
  {d : Desktop} {metadata : MobileTransferAssetMetadata} {context : MobileTransferContext} {files files' : Files}
  {folderPath : String}

theorem received_whole {faults : FileOperation → Option OSError} (quiet : ∀ index, faults (.writeChunk index) = none)
    (delivers : Delivers reads body) (index : Nat) (written : Bytes) :
    receiveBody faults reads index body.length written = (none,written ++ body) := by
  induction delivers generalizing index written with
  | @done reads =>
      rw [List.append_nil]
      cases reads <;> rfl
  | @chunk bytes later reads some asked rest ih =>
      obtain ⟨c,tail,rfl⟩ := List.exists_cons_of_ne_nil some
      have whole : (c :: tail).take (min streamChunkSizeBytes ((c :: tail ++ later).length)) = c :: tail := by
        apply List.take_of_length_le
        rw [List.length_append]
        omega
      have left : (c :: tail ++ later).length - (c :: tail).length = later.length := by
        rw [List.length_append,Nat.add_sub_cancel_left]
      have size : (c :: tail ++ later).length = (tail ++ later).length + 1 := rfl
      rw [size,receiveBody,← size]
      rw [whole,if_neg some,quiet,left,← List.append_assoc]
      exact ih (index + 1) (written ++ c :: tail)

theorem same_exists (same : SameFolders files files') (path : RelativePath) :
    fileExists files' (.asset folderPath path) = fileExists files (.asset folderPath path) := by
  unfold fileExists
  rw [same]

theorem withStaged_same : SameFolders d.files (withStaged d staged body).files := by
  intro folderPath path
  unfold withStaged
  rw [read_write,if_neg (by simp)]

-- How far the search may go does not matter: both find the first free name.
theorem resolve_same (same : SameFolders files files') (monthDirectory : String) (filename : List Char) :
    resolveConflictSafePath files' folderPath monthDirectory filename =
      resolveConflictSafePath files folderPath monthDirectory filename := by
  have free : ∀ name, nameFree files' folderPath monthDirectory name = nameFree files folderPath monthDirectory name := by
    intro name
    unfold nameFree
    rw [same_exists same]
  have first := resolve_free files folderPath monthDirectory filename
  have second := resolve_free files' folderPath monthDirectory filename
  rw [same_exists same] at second
  unfold resolveConflictSafePath at first second ⊢
  simp only [free] at first second ⊢
  split
  · rfl
  · rename_i taken
    rw [if_neg taken] at first second
    have found : ∀ {name}, fileExists files (.asset folderPath ⟨monthDirectory,name⟩) = false →
        nameFree files folderPath monthDirectory name = true := by
      intro name absent
      unfold nameFree
      rw [absent]
      rfl
    rw [FreeNames.search_same (found second) (found first)]

theorem target_same (same : SameFolders files files') :
    targetPath call metadata folderPath files' = targetPath call metadata folderPath files := resolve_same same _ _

theorem signature_same (same : SameFolders d.files files') :
    existingSignatureAsset {d with files:=files'} metadata = existingSignatureAsset d metadata := by
  have rows : ∀ deviceUuid keys, getMobileAssetRecordsBySignatures d.store files' deviceUuid keys =
      getMobileAssetRecordsBySignatures d.store d.files deviceUuid keys := by
    intro deviceUuid keys
    unfold getMobileAssetRecordsBySignatures
    simp only [same_exists same]
  unfold existingSignatureAsset getMobileAssetRecordBySignature
  simp only [rows]

theorem version_same (same : SameFolders d.files files') :
    existingAssetVersion {d with files:=files'} metadata folderPath = existingAssetVersion d metadata folderPath := by
  unfold existingAssetVersion
  simp only [same_exists same]

def partLocation (call : UploadCall) (metadata : MobileTransferAssetMetadata) (folderPath : String) (files : Files) : Location :=
  .asset folderPath ⟨(targetPath call metadata folderPath files).monthDirectory,
    partName (targetPath call metadata folderPath files).name call.partToken⟩

def finalLocation (call : UploadCall) (metadata : MobileTransferAssetMetadata) (folderPath : String) (files : Files) : Location :=
  .asset folderPath (targetPath call metadata folderPath files)

theorem streamed_stores (delivers : Delivers reads body) :
    writeAssetToFolder lib (streamedCall call reads body) metadata folderPath reads files =
      (.ok ⟨targetPath call metadata folderPath files,lib.sha1 body,body.length⟩,
        replace (writeFile files (partLocation call metadata folderPath files) body)
          (partLocation call metadata folderPath files) (finalLocation call metadata folderPath files)) := by
  have received : receiveBody (streamedCall call reads body).faults reads 0 (streamedCall call reads body).contentLength.toNat [] =
      (none,body) := received_whole (fun _ => rfl) delivers 0 []
  have stamped : utimeFault (streamedCall call reads body) metadata = none := by
    unfold utimeFault
    split <;> rfl
  unfold writeAssetToFolder
  rw [received,stamped]
  rfl

theorem staged_checked : checkStaged lib (stagedCall lib call staged body) metadata body =
    if metadata.contentSha1.any fun expected => lib.sha1 body ≠ lower expected then
      .error (.plain "Desktop received a staged asset file with a mismatched SHA-1 digest.")
    else .ok (lib.sha1 body) := by
  have provided : providedSha1 (stagedCall lib call staged body) = lib.sha1 body := normalised_sha1 lib body
  have some : lib.sha1 body ≠ "" := by
    intro empty
    have length := lib.sha1Length body
    rw [empty] at length
    cases length
  unfold checkStaged
  rw [provided,if_neg some]
  split
  · rename_i failed
    cases failed
  · rw [if_neg (fun other => other rfl)]
    dsimp only
    rw [if_neg some]

theorem staged_stores (present : readFile files (.staged staged) = some body) :
    moveStagedAssetToFolder lib (stagedCall lib call staged body) metadata folderPath staged files =
      if metadata.contentSha1.any fun expected => lib.sha1 body ≠ lower expected then
        (.error (.plain "Desktop received a staged asset file with a mismatched SHA-1 digest."),files)
      else (.ok ⟨targetPath call metadata folderPath files,lib.sha1 body,body.length⟩,
        replace files (.staged staged) (finalLocation call metadata folderPath files)) := by
  have stamped : utimeFault (stagedCall lib call staged body) metadata = none := by
    unfold utimeFault
    split <;> rfl
  have made : (stagedCall lib call staged body).faults .mkdir = none := rfl
  unfold moveStagedAssetToFolder
  rw [made]
  dsimp only
  rw [present]
  dsimp only
  rw [staged_checked,stamped]
  by_cases other : (metadata.contentSha1.any fun expected => lib.sha1 body ≠ lower expected) = true
  · rw [if_pos other,if_pos other]
  · rw [if_neg other,if_neg other]
    rfl

theorem check_same (store : Store) :
    checkUpload lib (stagedCall lib call staged body) store = checkUpload lib (streamedCall call reads body) store := rfl

theorem cleaned_same (call' : UploadCall) : SameFolders d.files (cleanupTempUploadFile call' (withStaged d staged body).files) := by
  intro folderPath path
  rw [read_cleanup]
  exact withStaged_same folderPath path

theorem cleaned_agree {result : Except Raised Response} {store : Store} :
    Agree (result,{d with files:=cleanupTempUploadFile (streamedCall call reads body) d.files,store})
      (result,{withStaged d staged body with
        files:=cleanupTempUploadFile (stagedCall lib call staged body) (withStaged d staged body).files,store}) :=
  ⟨rfl,rfl,cleaned_same _,rfl⟩

theorem unchanged_agree {result : Except Raised Response} : Agree (result,d) (result,withStaged d staged body) :=
  ⟨rfl,rfl,withStaged_same,rfl⟩

-- The part file is gone under either form, and nothing but the target has changed.
theorem stored_same (unused : Unused d.files call.partToken) : SameFolders
    (replace (writeFile d.files (partLocation call metadata folderPath d.files) body)
      (partLocation call metadata folderPath d.files) (finalLocation call metadata folderPath d.files))
    (replace (withStaged d staged body).files (.staged staged) (finalLocation call metadata folderPath d.files)) := by
  intro folder path
  have written : readFile (writeFile d.files (partLocation call metadata folderPath d.files) body)
      (partLocation call metadata folderPath d.files) = some body := by rw [read_write,if_pos rfl]
  have present : readFile (withStaged d staged body).files (.staged staged) = some body := by
    unfold withStaged
    rw [read_write,if_pos rfl]
  rw [read_replace written,read_replace present]
  by_cases final : finalLocation call metadata folderPath d.files = .asset folder path
  · rw [if_pos final,if_pos final]
  · rw [if_neg final,if_neg final,if_neg (by simp)]
    rw [withStaged_same folder path]
    by_cases part : partLocation call metadata folderPath d.files = .asset folder path
    · rw [if_pos part,← part]
      exact unused _ _ _
    · rw [if_neg part,read_write,if_neg part]

theorem refusal_differs {publish : Bool} {currentTime : DateTime} {error : OSError} {stored : StoredMobileTransferAsset} :
    (failTransfer context currentTime publish (storeFailedResponse error) d).1 ≠ .ok (storedResponse stored) := by
  unfold failTransfer
  split
  · exact nofun
  · intro same
    have status := congrArg Response.status (Except.ok.inj same)
    unfold storeFailedResponse at status
    split at status <;> cases status

theorem mismatch_iff : (metadata.contentSha1.any fun expected => lib.sha1 body ≠ lower expected) = true ↔
    ¬∀ expected, metadata.contentSha1 = some expected → lib.sha1 body = lower expected := by
  cases metadata.contentSha1 with
  | none => simp
  | some expected => simp

theorem storing_agree (unused : Unused d.files call.partToken) (delivers : Delivers reads body) :
    Agree (storeUpload lib (streamedCall call reads body) metadata context d)
      (storeUpload lib (stagedCall lib call staged body) metadata context (withStaged d staged body)) ↔
      ∀ expected, metadata.contentSha1 = some expected → lib.sha1 body = lower expected := by
  have present : readFile (withStaged d staged body).files (.staged staged) = some body := by
    unfold withStaged
    rw [read_write,if_pos rfl]
  have streamed : storeAssetFile lib (streamedCall call reads body) metadata context.folderPath d.files = _ := streamed_stores delivers
  have moved : storeAssetFile lib (stagedCall lib call staged body) metadata context.folderPath (withStaged d staged body).files = _ :=
    staged_stores present
  have target : targetPath call metadata context.folderPath (withStaged d staged body).files =
      targetPath call metadata context.folderPath d.files := target_same withStaged_same
  unfold storeUpload
  rw [streamed,moved]
  by_cases other : (metadata.contentSha1.any fun expected => lib.sha1 body ≠ lower expected) = true
  · rw [if_pos other]
    constructor
    · exact fun agree => absurd agree.answer.symm refusal_differs
    · exact fun truthful => absurd truthful (mismatch_iff.mp other)
  · rw [if_neg other]
    unfold finalLocation
    rw [target]
    constructor
    · exact fun _ => not_not.mp fun differs => other (mismatch_iff.mpr differs)
    · exact fun _ => ⟨rfl,rfl,stored_same unused,rfl⟩

theorem authorised_agree (unused : Unused d.files call.partToken) (delivers : Delivers reads body) :
    Agree (uploadAuthorised lib (streamedCall call reads body) metadata context d)
      (uploadAuthorised lib (stagedCall lib call staged body) metadata context (withStaged d staged body)) ↔
      (existingSignatureAsset d metadata = .ok none → existingAssetVersion d metadata context.folderPath = none →
        ∀ expected, metadata.contentSha1 = some expected → lib.sha1 body = lower expected) := by
  have signed : existingSignatureAsset (withStaged d staged body) metadata = existingSignatureAsset d metadata :=
    signature_same withStaged_same
  have version : existingAssetVersion (withStaged d staged body) metadata context.folderPath =
      existingAssetVersion d metadata context.folderPath := version_same withStaged_same
  unfold uploadAuthorised
  rw [signed]
  cases found : existingSignatureAsset d metadata with
  | error raised => exact ⟨fun _ => nofun,fun _ => unchanged_agree⟩
  | ok row =>
      cases row with
      | some row => exact ⟨fun _ => nofun,fun _ => cleaned_agree⟩
      | none =>
          dsimp only
          rw [version]
          cases existing : existingAssetVersion d metadata context.folderPath with
          | some row => exact ⟨fun _ _ => nofun,fun _ => cleaned_agree⟩
          | none => exact (storing_agree unused delivers).trans ⟨fun truthful _ _ => truthful,fun truthful => truthful rfl rfl⟩

theorem forms_agree (unused : Unused d.files call.partToken) (delivers : Delivers reads body) :
    Agree (handleAssetUpload lib (streamedCall call reads body) d)
      (handleAssetUpload lib (stagedCall lib call staged body) (withStaged d staged body)) ↔
      Truthful lib (streamedCall call reads body) body d := by
  have same : checkUpload lib (stagedCall lib call staged body) (withStaged d staged body).store =
      checkUpload lib (streamedCall call reads body) d.store := check_same _
  unfold handleAssetUpload Truthful
  rw [same]
  cases checked : checkUpload lib (streamedCall call reads body) d.store with
  | refused cleans result =>
      refine ⟨fun _ metadata context passed => (nomatch passed),fun _ => ?_⟩
      cases cleans with
      | false => exact unchanged_agree
      | true => exact cleaned_agree
  | passed metadata context =>
      dsimp only
      rw [authorised_agree unused delivers]
      constructor
      · intro truthful other context' passed
        cases passed
        exact truthful
      · exact fun truthful => truthful metadata context rfl

def declaredPhoto : UploadCall := sampleCall "asset-1" "/tmp/1" "86f7e437faa5a7fce15d1ddcb9eaeaea377667b8"

theorem sample_unused (partToken : String) : Unused sampleDesktop.files partToken := fun _ _ _ => rfl

theorem one_read (b : UInt8) : Delivers [.ok [b]] [b] := .chunk (List.cons_ne_nil _ _) (Nat.le_add_left 1 _) .done

theorem photo_agrees : Unused sampleDesktop.files declaredPhoto.partToken ∧ Delivers [.ok [97]] [97] ∧
    (Agree (handleAssetUpload sampleLibraries (streamedCall declaredPhoto [.ok [97]] [97]) sampleDesktop)
      (handleAssetUpload sampleLibraries (stagedCall sampleLibraries declaredPhoto "/tmp/1" [97])
        (withStaged sampleDesktop "/tmp/1" [97])) ↔
      Truthful sampleLibraries (streamedCall declaredPhoto [.ok [97]] [97]) [97] sampleDesktop) :=
  ⟨sample_unused _,one_read 97,forms_agree (sample_unused _) (one_read 97)⟩

-- The body is [98]: one form stores it, the other refuses it.
theorem forms_differ : Unused sampleDesktop.files declaredPhoto.partToken ∧ Delivers [.ok [98]] [98] ∧
    ¬Agree (handleAssetUpload sampleLibraries (streamedCall declaredPhoto [.ok [98]] [98]) sampleDesktop)
      (handleAssetUpload sampleLibraries (stagedCall sampleLibraries declaredPhoto "/tmp/1" [98])
        (withStaged sampleDesktop "/tmp/1" [98])) := by
  refine ⟨sample_unused _,one_read 98,fun agree => ?_⟩
  exact absurd agree.answer (by decide +kernel)

end ImageSearch.UploadForms
