import ImageSearch.UploadOutcomes

namespace ImageSearch.ConsumedStages
open Payload BackupFolder MobileStore TransferService UploadOutcomes

-- What Path.exists() of a recorded photo raises instead of answering.
abbrev Probes := Location → Option OSError

def signatureProbes (store : Store) (deviceUuid : String) (key : SignatureKey) : List Location :=
  match boundFolderPath store deviceUuid with
  | none => []
  | some folderPath => store.assets.rows.filterMap fun row =>
      if row.deviceUuid = deviceUuid && row.signature? = some key then some (.asset folderPath row.localRelativePath)
      else none

def signatureFault (probes : Probes) (d : Desktop) (metadata : MobileTransferAssetMetadata) : Option OSError :=
  match metadata.contentSha1,metadata.fileSizeBytes,metadata.createdAt with
  | some contentSha1,some fileSizeBytes,some createdAt =>
    (signatureProbes d.store metadata.deviceUuid (mobileAssetSignatureKey contentSha1 fileSizeBytes createdAt)).findSome? probes
  | _,_,_ => none

def versionFault (probes : Probes) (d : Desktop) (metadata : MobileTransferAssetMetadata) (folderPath : String) :
    Option OSError :=
  match (getMobileAssetRecord d.store metadata.deviceUuid metadata.assetId).filter fun row =>
      row.remoteAssetVersion = metadata.assetVersion with
  | some row => probes (.asset folderPath row.localRelativePath)
  | none => none

-- The error that leaves the lookups, unless binding their parameters has raised before.
def probeFault (probes : Probes) (d : Desktop) (metadata : MobileTransferAssetMetadata) (folderPath : String) :
    Option OSError :=
  match existingSignatureAsset d metadata with
  | .error _ => none
  | .ok (some _) => signatureFault probes d metadata
  | .ok none => (signatureFault probes d metadata).or (versionFault probes d metadata folderPath)

-- handle_asset_upload where the probes of the lookups may raise as well.
def handleAssetUploadProbing (lib : Libraries) (call : UploadCall) (probes : Probes) (d : Desktop) :
    Except Raised Response × Desktop :=
  match checkUpload lib call d.store with
  | .refused cleans result => (result,if cleans then d.cleaned call else d)
  | .passed metadata context =>
    match probeFault probes d metadata context.folderPath with
    | some error => (.error (.osError error),d)
    | none => uploadAuthorised lib call metadata context d

variable {lib : Libraries} {call : UploadCall} {probes : Probes} {d : Desktop} {metadata : MobileTransferAssetMetadata}
  {context : MobileTransferContext} {staged folderPath : String} {files files' : Files}

theorem probes_answer : probeFault (fun _ => none) d metadata folderPath = none := by
  have signature : signatureFault (fun _ => none) d metadata = none := by
    unfold signatureFault
    split
    · exact List.findSome?_eq_none_iff.mpr fun _ _ => rfl
    · rfl
  have version : versionFault (fun _ => none) d metadata folderPath = none := by
    unfold versionFault
    split <;> rfl
  unfold probeFault
  split
  · rfl
  · exact signature
  · rw [signature,version]
    rfl

theorem probing_answered : handleAssetUploadProbing lib call (fun _ => none) d = handleAssetUpload lib call d := by
  unfold handleAssetUploadProbing handleAssetUpload
  cases checkUpload lib call d.store with
  | refused cleans result => rfl
  | passed metadata context =>
      dsimp only
      rw [probes_answer]

def Consumed (call : UploadCall) (d : Desktop) (ended : Except Raised Response × Desktop) : Prop :=
  (∀ staged, call.tempFilePath = some staged → fileExists ended.2.files (.staged staged) = false) ∧
  ((∀ response, ended.1 = .ok response → response.status ≠ .stored) →
    (∀ folderPath path, fileExists ended.2.files (.asset folderPath path) = true →
      fileExists d.files (.asset folderPath path) = true) ∧ ended.2.store.assets = d.store.assets)

def raisesEarly (lib : Libraries) (call : UploadCall) (probes : Probes) (d : Desktop) : Bool :=
  match checkUpload lib call d.store with
  | .refused cleans _ => !cleans
  | .passed metadata context => (probeFault probes d metadata context.folderPath).isSome ||
      match existingSignatureAsset d metadata with
      | .error _ => true
      | .ok _ => false

structure Storing (lib : Libraries) (call : UploadCall) (probes : Probes) (d : Desktop)
    (metadata : MobileTransferAssetMetadata) (context : MobileTransferContext) : Prop where
  passed : checkUpload lib call d.store = .passed metadata context
  probed : probeFault probes d metadata context.folderPath = none
  signature : existingSignatureAsset d metadata = .ok none
  version : existingAssetVersion d metadata context.folderPath = none

def Moves (lib : Libraries) (call : UploadCall) (metadata : MobileTransferAssetMetadata) (files : Files) (staged : String) :
    Prop :=
  call.faults .mkdir = none ∧ (∃ content contentSha1, readFile files (.staged staged) = some content ∧
    checkStaged lib call metadata content = .ok contentSha1) ∧ ∀ error, call.faults .replace = some error → isCrossDevice error

def Claims (lib : Libraries) (call : UploadCall) (probes : Probes) (d : Desktop) (metadata : MobileTransferAssetMetadata)
    (staged : String) : Prop :=
  (∃ context, Storing lib call probes d metadata context) ∧ Moves lib call metadata d.files staged

structure Settles (lib : Libraries) (call : UploadCall) (probes : Probes) (d : Desktop) (staged : String) : Prop where
  returns : raisesEarly lib call probes d = false
  finishes : ∀ metadata, Claims lib call probes d metadata staged → failsAfterClaim call metadata = false
  cleans : (∀ metadata, ¬Claims lib call probes d metadata staged) → call.faults .cleanup = none

theorem cleaned_gone (handed : call.tempFilePath = some staged) :
    fileExists (cleanupTempUploadFile call files) (.staged staged) = false ↔
      call.faults .cleanup = none ∨ fileExists files (.staged staged) = false := by
  unfold cleanupTempUploadFile
  rw [handed]
  cases call.faults .cleanup with
  | none => simp [fileExists,read_unlink]
  | some error => simp

theorem cleaned_assets (path : RelativePath) : fileExists (cleanupTempUploadFile call files) (.asset folderPath path) =
    fileExists files (.asset folderPath path) := by
  unfold fileExists
  rw [read_cleanup]

theorem unchanged_consumed (handed : call.tempFilePath = some staged) {raised : Raised} :
    Consumed call d (.error raised,d) ↔ fileExists d.files (.staged staged) = false := by
  constructor
  · exact fun consumed => consumed.1 staged handed
  · intro gone
    refine ⟨?_,fun _ => ⟨fun _ _ there => there,rfl⟩⟩
    intro other same
    rw [handed] at same
    cases same
    exact gone

theorem cleaned_consumed (handed : call.tempFilePath = some staged) {ended : Except Raised Response × Desktop}
    (files : ended.2.files = cleanupTempUploadFile call d.files) (assets : ended.2.store.assets = d.store.assets) :
    Consumed call d ended ↔ (fileExists d.files (.staged staged) = true → call.faults .cleanup = none) := by
  have gone := @cleaned_gone call staged d.files handed
  constructor
  · intro consumed present
    have absent := consumed.1 staged handed
    rw [files,gone,present] at absent
    exact absent.resolve_right nofun
  · intro cleans
    refine ⟨?_,fun _ => ⟨?_,assets⟩⟩
    · intro other same
      rw [handed] at same
      cases same
      rw [files,gone]
      cases present : fileExists d.files (.staged staged) with
      | false => exact .inr rfl
      | true => exact .inl (cleans present)
    · intro folderPath path there
      rw [files,cleaned_assets] at there
      exact there

-- The rename, or the copy in its place, with what it leaves: the staged file where it was
-- refused, the name taken where the copy breaks off.
def copyFails (call : UploadCall) : Bool :=
  (call.faults .replace).any isCrossDevice && ((call.faults .copyStaged).isSome || (call.faults .unlinkStaged).isSome)

inductive StageMove (call : UploadCall) (files : Files) (source final : Location) : Option OSError × Files → Prop where
  | refused {error : OSError} (still : ¬∀ error, call.faults .replace = some error → isCrossDevice error) :
      StageMove call files source final (some error,files)
  | broken {error : OSError} {files' : Files} (across : ∀ error, call.faults .replace = some error → isCrossDevice error)
      (late : copyFails call = true) (taken : fileExists files' final = true) :
      StageMove call files source final (some error,files')
  | finished {files' : Files} (across : ∀ error, call.faults .replace = some error → isCrossDevice error)
      (early : copyFails call = false) (taken : fileExists files' final = true) (gone : fileExists files' source = false) :
      StageMove call files source final (none,files')

theorem written_exists {final : Location} {content : Bytes} : fileExists (writeFile files final content) final = true := by
  unfold fileExists
  rw [read_write,if_pos rfl]
  rfl

theorem stage_move {source final : Location} {content : Bytes} (present : readFile files source = some content)
    (apart : source ≠ final) : StageMove call files source final (moveStaged call files source final content) := by
  unfold moveStaged
  cases renamed : call.faults .replace with
  | none =>
      have early : copyFails call = false := by simp [copyFails,renamed]
      refine .finished (fun error refused => by rw [renamed] at refused; cases refused) early ?_ ?_
      · unfold fileExists
        rw [read_replace present,if_pos rfl]
        rfl
      · unfold fileExists
        rw [read_replace present,if_neg (Ne.symm apart),if_pos rfl]
        rfl
  | some error =>
      dsimp only
      cases crossed : isCrossDevice error with
      | false =>
          rw [if_neg (by decide)]
          refine .refused fun across => ?_
          rw [across error renamed] at crossed
          cases crossed
      | true =>
          have across : ∀ other, call.faults .replace = some other → isCrossDevice other := by
            intro other refused
            rw [renamed] at refused
            cases refused
            exact crossed
          have copies : copyFails call = ((call.faults .copyStaged).isSome || (call.faults .unlinkStaged).isSome) := by
            simp [copyFails,renamed,crossed]
          rw [if_pos rfl]
          cases copied : call.faults .copyStaged with
          | some second => exact .broken across (by rw [copies,copied]; simp) written_exists
          | none =>
              cases unlinked : call.faults .unlinkStaged with
              | some second => exact .broken across (by rw [copies,unlinked]; simp) written_exists
              | none =>
                  refine .finished across (by rw [copies,copied,unlinked]; rfl) ?_ ?_
                  · unfold fileExists
                    rw [read_unlink,if_neg apart,read_write,if_pos rfl]
                    rfl
                  · unfold fileExists
                    rw [read_unlink,if_pos rfl]
                    rfl

inductive MoveEnding (lib : Libraries) (call : UploadCall) (metadata : MobileTransferAssetMetadata) (folderPath staged : String)
    (files : Files) : Except OSError StoredMobileTransferAsset × Files → Prop where
  | refused {error : OSError} (still : ¬Moves lib call metadata files staged) :
      MoveEnding lib call metadata folderPath staged files (.error error,files)
  | claimed {error : OSError} {files' : Files} (moves : Moves lib call metadata files staged)
      (late : failsAfterClaim call metadata = true)
      (taken : fileExists files' (.asset folderPath (targetPath call metadata folderPath files)) = true) :
      MoveEnding lib call metadata folderPath staged files (.error error,files')
  | done {stored : StoredMobileTransferAsset} {files' : Files} (moves : Moves lib call metadata files staged)
      (early : failsAfterClaim call metadata = false) (gone : fileExists files' (.staged staged) = false) :
      MoveEnding lib call metadata folderPath staged files (.ok stored,files')

theorem move_ending (handed : call.tempFilePath = some staged) : MoveEnding lib call metadata folderPath staged files
    (moveStagedAssetToFolder lib call metadata folderPath staged files) := by
  have late : failsAfterClaim call metadata = ((utimeFault call metadata).isSome || copyFails call) := by
    unfold failsAfterClaim copyFails
    rw [handed]
    simp
  unfold moveStagedAssetToFolder
  split
  · rename_i refused
    refine .refused fun moves => ?_
    have made := moves.1
    rw [refused] at made
    cases made
  · rename_i made
    dsimp only
    split
    · rename_i missing
      refine .refused fun moves => ?_
      obtain ⟨-,⟨content,sha1,present,-⟩,-⟩ := moves
      rw [missing] at present
      cases present
    · rename_i content present
      split
      · rename_i error unchecked
        refine .refused fun moves => ?_
        obtain ⟨-,⟨other,sha1,present',checked⟩,-⟩ := moves
        rw [present] at present'
        cases present'
        rw [unchecked] at checked
        cases checked
      · rename_i contentSha1 checked
        have moved := @stage_move call files _ (.asset folderPath (targetPath call metadata folderPath files)) content present
          (by simp)
        have checks : ∃ content contentSha1, readFile files (.staged staged) = some content ∧
            checkStaged lib call metadata content = .ok contentSha1 := ⟨content,contentSha1,present,checked⟩
        generalize moveStaged call files (.staged staged)
          (.asset folderPath (targetPath call metadata folderPath files)) content = ended at moved ⊢
        cases moved with
        | refused still => exact .refused fun moves => still moves.2.2
        | broken across broke taken => exact .claimed ⟨made,checks,across⟩ (by rw [late,broke]; simp) taken
        | finished across copied taken gone =>
            dsimp only
            rw [Option.none_or]
            cases stamped : utimeFault call metadata with
            | some error => exact .claimed ⟨made,checks,across⟩ (by rw [late,stamped]; rfl) taken
            | none => exact .done ⟨made,checks,across⟩ (by rw [late,stamped,copied]; rfl) gone

theorem claims_present (claims : Claims lib call probes d metadata staged) : fileExists d.files (.staged staged) = true := by
  obtain ⟨content,-,present,-⟩ := claims.2.2.1
  unfold fileExists
  rw [present]
  rfl

theorem settles_cleaned (returns : raisesEarly lib call probes d = false)
    (still : ∀ metadata, ¬Claims lib call probes d metadata staged) :
    Settles lib call probes d staged ↔ call.faults .cleanup = none :=
  ⟨fun settles => settles.cleans still,fun cleans => ⟨returns,fun metadata claims => absurd claims (still metadata),fun _ => cleans⟩⟩

theorem storing_same {other : MobileTransferAssetMetadata} {one two : MobileTransferContext}
    (first : checkUpload lib call d.store = .passed metadata one) (second : Storing lib call probes d other two) :
    other = metadata ∧ two = one := by
  have same := second.passed
  rw [first] at same
  cases same
  exact ⟨rfl,rfl⟩

theorem failed_consumed {publish : Bool} {response : Response}
    (refused : response.status ≠ .stored) (taken : fileExists files (.asset folderPath (targetPath call metadata folderPath d.files)) = true) :
    ¬Consumed call d (failTransfer context call.currentTime publish response {d with files:=cleanupTempUploadFile call files}) := by
  intro consumed
  have free : fileExists d.files (.asset folderPath (targetPath call metadata folderPath d.files)) = false := target_free
  have kept : (failTransfer context call.currentTime publish response {d with files:=cleanupTempUploadFile call files}).2.files =
      cleanupTempUploadFile call files := by
    unfold failTransfer
    split
    · rfl
    · rename_i marked done
      exact (mark_parts done).2.2
  have unstored : ∀ answered, (failTransfer context call.currentTime publish response
      {d with files:=cleanupTempUploadFile call files}).1 = .ok answered → answered.status ≠ .stored := by
    intro answered same
    unfold failTransfer at same
    split at same
    · cases same
    · cases same
      exact refused
  have appeared := (consumed.2 unstored).1 folderPath (targetPath call metadata folderPath d.files)
  rw [kept,cleaned_assets,free] at appeared
  cases appeared taken

theorem failed_files {publish : Bool} {response : Response} {d : Desktop} :
    (failTransfer context call.currentTime publish response d).2.files = d.files ∧
    (failTransfer context call.currentTime publish response d).2.store.assets = d.store.assets := by
  unfold failTransfer
  split
  · exact ⟨rfl,rfl⟩
  · rename_i marked done
    obtain ⟨-,assets,files⟩ := mark_parts done
    exact ⟨files,assets⟩

theorem refusal_raises (handed : call.tempFilePath = some staged) {result : Except Raised Response}
    (refused : checkUpload lib call d.store = .refused false result) : ∃ raised, result = .error raised := by
  unfold checkUpload at refused
  rw [handed,Option.isNone_some,Bool.and_false,if_neg (by decide)] at refused
  split at refused
  · cases refused
  · cases refused
    exact ⟨_,rfl⟩
  · split at refused
    · cases refused
    · split at refused
      · cases refused
        exact ⟨_,rfl⟩
      · cases refused
      · cases refused

theorem failed_unstored (error : OSError) : (storeFailedResponse error).status ≠ .stored := by
  unfold storeFailedResponse
  split <;> exact nofun

def Exact (lib : Libraries) (call : UploadCall) (probes : Probes) (d : Desktop) (staged : String)
    (ended : Except Raised Response × Desktop) : Prop :=
  Consumed call d ended ↔ (fileExists d.files (.staged staged) = true → Settles lib call probes d staged)

theorem raised_exact (handed : call.tempFilePath = some staged) (early : raisesEarly lib call probes d = true) {raised : Raised} :
    Exact lib call probes d staged (.error raised,d) := by
  unfold Exact
  rw [unchanged_consumed handed,← Bool.not_eq_true]
  refine imp_congr_right fun _ => ⟨nofun,fun settles => ?_⟩
  have returns := settles.returns
  rw [early] at returns
  cases returns

theorem cleaned_exact (handed : call.tempFilePath = some staged) {ended : Except Raised Response × Desktop}
    (files : ended.2.files = cleanupTempUploadFile call d.files) (assets : ended.2.store.assets = d.store.assets)
    (returns : raisesEarly lib call probes d = false) (still : ∀ metadata, ¬Claims lib call probes d metadata staged) :
    Exact lib call probes d staged ended := by
  unfold Exact
  rw [cleaned_consumed handed files assets,settles_cleaned returns still]

theorem stored_exact (handed : call.tempFilePath = some staged) (storing : Storing lib call probes d metadata context)
    (returns : raisesEarly lib call probes d = false) :
    Exact lib call probes d staged (storeUpload lib call metadata context d) := by
  have ending := @move_ending lib call metadata staged context.folderPath d.files handed
  have mine : ∀ other, Claims lib call probes d other staged → other = metadata := by
    rintro other ⟨⟨two,second⟩,-⟩
    exact (storing_same storing.passed second).1
  unfold storeUpload storeAssetFile
  rw [handed]
  dsimp only
  generalize moveStagedAssetToFolder lib call metadata context.folderPath staged d.files = moved at ending
  cases ending with
  | refused still =>
      refine cleaned_exact handed failed_files.1 failed_files.2 returns fun other claims => ?_
      have same := mine other claims
      subst same
      exact still claims.2
  | claimed moves late taken =>
      have claims : Claims lib call probes d metadata staged := ⟨⟨context,storing⟩,moves⟩
      refine ⟨fun consumed => absurd consumed (failed_consumed (failed_unstored _) taken),fun settles => ?_⟩
      have finishes := (settles (claims_present claims)).finishes metadata claims
      rw [late] at finishes
      cases finishes
  | done moves early gone =>
      have claims : Claims lib call probes d metadata staged := ⟨⟨context,storing⟩,moves⟩
      refine ⟨fun _ _ => ⟨returns,?_,fun still => absurd claims (still metadata)⟩,fun _ => ⟨?_,fun unstored => ?_⟩⟩
      · intro other others
        rw [mine other others]
        exact early
      · intro other same
        rw [handed] at same
        cases same
        exact gone
      · exact absurd rfl (unstored _ rfl)

theorem authorised_exact (handed : call.tempFilePath = some staged)
    (passed : checkUpload lib call d.store = .passed metadata context)
    (probed : probeFault probes d metadata context.folderPath = none) :
    Exact lib call probes d staged (uploadAuthorised lib call metadata context d) := by
  have early : raisesEarly lib call probes d = match existingSignatureAsset d metadata with
      | .error _ => true
      | .ok _ => false := by
    unfold raisesEarly
    rw [passed]
    dsimp only
    rw [probed]
    rfl
  unfold uploadAuthorised
  cases signature : existingSignatureAsset d metadata with
  | error raised =>
      rw [signature] at early
      exact raised_exact handed early
  | ok found =>
      rw [signature] at early
      cases found with
      | some row =>
          refine cleaned_exact handed rfl rfl early fun other claims => ?_
          obtain ⟨⟨two,storing⟩,-⟩ := claims
          obtain ⟨rfl,rfl⟩ := storing_same passed storing
          have unsigned := storing.signature
          rw [signature] at unsigned
          cases unsigned
      | none =>
          dsimp only
          cases version : existingAssetVersion d metadata context.folderPath with
          | some row =>
              refine cleaned_exact handed rfl rfl early fun other claims => ?_
              obtain ⟨⟨two,storing⟩,-⟩ := claims
              obtain ⟨rfl,rfl⟩ := storing_same passed storing
              have unversioned := storing.version
              rw [version] at unversioned
              cases unversioned
          | none => exact stored_exact handed ⟨passed,probed,signature,version⟩ early

def stagedDesktop : Desktop := {sampleDesktop with files:=writeFile .empty (.staged "/tmp/1") [97]}

def photo : UploadCall := sampleCall "asset-1" "/tmp/1" "86f7e437faa5a7fce15d1ddcb9eaeaea377667b8"

-- A proof that is no ASCII text, and a timestamp that cannot be set.
def wideProof : UploadCall := {photo with
  metadataPayload:=photo.metadataPayload.map fun field =>
    if field.1 = "trust_proof" then (field.1,.string "é") else field}

def unstamped : UploadCall := {photo with
  faults:=fun operation => if operation = .utime then some (.plain "Operation not permitted") else none}

end ImageSearch.ConsumedStages
