import ImageSearch.BackupRuns
import Mathlib.Data.List.Dedup

namespace ImageSearch.TransferCounts
open Transitions Payload Tables BackupState BackupFolder MobileStore TransferService UploadOutcomes TerminalSessions BackupRuns PairingStore

variable {identity : PairingService.DesktopIdentity} {lib : Libraries} {d next : Desktop} {call : UploadCall}
  {metadata : MobileTransferAssetMetadata} {sessionId : String} {total : Int}

def acknowledgedIn (lib : Libraries) (sessionId : String) (d : Desktop) : BackupEvent → List String
  | .upload call =>
    match parseTransferAssetMetadata lib call.metadataPayload,(handleAssetUpload lib call d).1 with
    | .ok metadata,.ok response =>
      if response.statusCode = 200 ∧ metadata.sessionId = sessionId then [metadata.assetId] else []
    | _,_ => []
  | _ => []

structure Progress where
  desktop : Desktop
  acknowledged : List String

def progressSystem (identity : PairingService.DesktopIdentity) (lib : Libraries) (sessionId : String) :
    System Progress BackupEvent where
  step s event := ((backupSystem identity lib).step s.desktop event).map fun desktop =>
    ⟨desktop,s.acknowledged ++ acknowledgedIn lib sessionId s.desktop event⟩

-- The run stays within the session: it is neither started again nor ended, and the
-- pairings and folders of the library are left as they are.
def within (sessionId : String) : BackupEvent → Bool
  | .upload _ | .streamError .. | .insertFolder _ | .files _ => true
  | .start payload _ | .complete payload _ =>
    match requireNonEmptyString payload "session_id" with
    | .ok other => other ≠ sessionId
    | .error _ => true
  | .accept _ | .deleteFolders _ => false

def unrepeated (lib : Libraries) (sessionId : String) (s : Progress) : BackupEvent → Bool
  | .upload call =>
    match parseTransferAssetMetadata lib call.metadataPayload with
    | .ok metadata => metadata.sessionId ≠ sessionId || metadata.assetId ∉ s.acknowledged
    | .error _ => true
  | _ => true

-- The counter is the number of distinct assets acknowledged since the start.
def CountsAssets (sessionId : String) (total : Int) (s : Progress) : Prop :=
  ∃ row, s.desktop.store.sessions.find? sessionId = some row ∧ row.transferredCount = s.acknowledged.dedup.length ∧
    ((s.acknowledged.dedup.length : Int) ≤ total → row.transferredCount ≤ row.totalAssets)

def counters (row : BackupSessionRow) : Int × Int := (row.totalAssets,row.transferredCount)

def Adds (sessionId : String) (n : Nat) (old new : Store) : Prop :=
  (new.sessions.find? sessionId).map counters =
    (old.sessions.find? sessionId).map fun row => (row.totalAssets,row.transferredCount + (n : Int))

section Requests
variable {store : Store}

theorem adds_none : Adds sessionId 0 store store := by
  unfold Adds counters
  simp

theorem adds_update {other deviceUuid : String} {status : SessionStatus} {state : FolderTransferState}
    {updatedAt : DateTime} {endedAt : Option DateTime} {failed : Option Int} :
    Adds sessionId 0 store
      (updateMobileTransferState store other deviceUuid status state updatedAt endedAt none none failed) := by
  unfold Adds
  rw [update_find,Option.map_map]
  refine Option.map_congr fun row _ => ?_
  simp only [Function.comp_apply]
  split <;> simp [counters]

theorem adds_update_other {other deviceUuid : String} {status : SessionStatus} {state : FolderTransferState}
    {updatedAt : DateTime} {endedAt : Option DateTime} {total transferred failed : Option Int} (apart : other ≠ sessionId) :
    Adds sessionId 0 store
      (updateMobileTransferState store other deviceUuid status state updatedAt endedAt total transferred failed) := by
  unfold Adds
  rw [update_find,Option.map_map]
  refine Option.map_congr fun row located => ?_
  have mine : row.sessionId ≠ other := fun same => apart (same.symm.trans (find_mem located).2)
  simp [counters,mine]

theorem adds_increment {row : BackupSessionRow} (located : store.sessions.find? metadata.sessionId = some row)
    (owner : row.deviceUuid = metadata.deviceUuid) :
    Adds sessionId (if metadata.sessionId = sessionId then 1 else 0) store (countTransferred store metadata) := by
  unfold Adds countTransferred
  rw [increment_find,Option.map_map]
  refine Option.map_congr fun other found => ?_
  by_cases mine : metadata.sessionId = sessionId
  · subst mine
    cases located.symm.trans found
    simp [counters,(find_mem found).2,owner]
  · have apart : other.sessionId ≠ metadata.sessionId := fun same => mine (same.symm.trans (find_mem found).2)
    simp [counters,apart,mine]

theorem fail_adds {context : MobileTransferContext} {currentTime : DateTime} {publish : Bool} {response : Response} :
    Adds sessionId 0 d.store (failTransfer context currentTime publish response d).2.store := by
  rcases fail_store context currentTime publish response d with same | ⟨state,written⟩
  · rw [same]; exact adds_none
  · rw [written]; exact adds_update

end Requests

theorem acknowledged_refused (refused : NotOk (handleAssetUpload lib call d).1) :
    acknowledgedIn lib sessionId d (.upload call) = [] := by
  unfold acknowledgedIn
  dsimp only
  split
  · rename_i metadata response _ answered
    have code := refused response answered
    rw [if_neg (by omega)]
  · rfl

theorem acknowledged_accepted {response : Response}
    (parsed : parseTransferAssetMetadata lib call.metadataPayload = .ok metadata)
    (answered : (handleAssetUpload lib call d).1 = .ok response) (code : response.statusCode = 200) :
    acknowledgedIn lib sessionId d (.upload call) = if metadata.sessionId = sessionId then [metadata.assetId] else [] := by
  simp [acknowledgedIn,parsed,answered,code]

theorem upload_adds : Adds sessionId (acknowledgedIn lib sessionId d (.upload call)).length d.store
    (handleAssetUpload lib call d).2.store := by
  have writes : UploadWrites lib call d (handleAssetUpload lib call d) := upload_writes
  generalize answered : handleAssetUpload lib call d = result at writes
  cases writes with
  | quiet refusal same =>
      rw [acknowledged_refused (by rw [answered]; exact refusal),same]
      exact adds_none
  | @counted metadata context response store _ accepted code sessions _ same =>
      obtain ⟨row,_,_,located,owner,-⟩ := context_parts (authorise_parts accepted.granted).1
      rw [← sessions] at located
      have added : Adds sessionId (if metadata.sessionId = sessionId then 1 else 0) store (countTransferred store metadata) :=
        adds_increment located owner
      have length : (acknowledgedIn lib sessionId d (.upload call)).length =
          if metadata.sessionId = sessionId then 1 else 0 := by
        rw [acknowledged_accepted accepted.parsed (by rw [answered]) code]
        split <;> rfl
      unfold Adds at added ⊢
      rw [same,length,added,sessions]
  | failed accepted refusal same =>
      rw [acknowledged_refused (by rw [answered]; exact refusal),same]
      exact adds_update

theorem session_text {payload : Fields} {requireTotal requireCounts : Bool} {request : MobileTransferSessionRequest}
    (parsed : parseTransferSessionRequest payload requireTotal requireCounts = .ok request) :
    requireNonEmptyString payload "session_id" = .ok request.sessionId ∧
      (requireTotal = true → ∃ count, request.totalAssets = some count) := by
  unfold parseTransferSessionRequest at parsed
  obtain ⟨_,-,parsed⟩ := bind_parts parsed
  obtain ⟨session,found,parsed⟩ := bind_parts parsed
  obtain ⟨_,-,parsed⟩ := bind_parts parsed
  obtain ⟨_,-,parsed⟩ := bind_parts parsed
  rw [found]
  cases requireTotal with
  | true =>
      obtain ⟨counted,total,parsed⟩ := @bind_parts _ _ _ (some <$> requireNonNegativeInt payload "total_assets") _ _ parsed
      obtain ⟨count,-,rfl⟩ : ∃ count, requireNonNegativeInt payload "total_assets" = .ok count ∧ some count = counted := by
        cases read : requireNonNegativeInt payload "total_assets" with
        | error raised => rw [read] at total; cases total
        | ok count => rw [read] at total; exact ⟨count,rfl,Except.ok.inj total⟩
      cases requireCounts with
      | true =>
          obtain ⟨_,-,parsed⟩ := @bind_parts _ _ _ (some <$> requireNonNegativeInt payload "transferred_count") _ _ parsed
          obtain ⟨_,-,parsed⟩ := @bind_parts _ _ _ (some <$> requireNonNegativeInt payload "failed_count") _ _ parsed
          rw [← Except.ok.inj parsed]
          exact ⟨rfl,fun _ => ⟨count,rfl⟩⟩
      | false =>
          rw [← Except.ok.inj parsed]
          exact ⟨rfl,fun _ => ⟨count,rfl⟩⟩
  | false =>
      cases requireCounts with
      | true =>
          obtain ⟨_,-,parsed⟩ := @bind_parts _ _ _ (some <$> requireNonNegativeInt payload "transferred_count") _ _ parsed
          obtain ⟨_,-,parsed⟩ := @bind_parts _ _ _ (some <$> requireNonNegativeInt payload "failed_count") _ _ parsed
          rw [← Except.ok.inj parsed]
          exact ⟨rfl,nofun⟩
      | false =>
          rw [← Except.ok.inj parsed]
          exact ⟨rfl,nofun⟩

theorem start_adds {payload : Fields} {currentTime : DateTime} (stays : within sessionId (.start payload currentTime) = true) :
    Adds sessionId 0 d.store (handleStartRequest lib payload currentTime d).2.store := by
  unfold handleStartRequest
  split
  · exact adds_none
  · rename_i request context passed
    have text := (session_text (session_parts passed).1).1
    have apart : request.sessionId ≠ sessionId := by simpa [within,text] using stays
    unfold acceptStart
    split
    · exact adds_none
    · split
      · exact adds_none
      · exact adds_update_other apart

theorem complete_adds {payload : Fields} {currentTime : DateTime}
    (stays : within sessionId (.complete payload currentTime) = true) :
    Adds sessionId 0 d.store (handleCompleteRequest lib payload currentTime d).2.store := by
  unfold handleCompleteRequest
  split
  · exact adds_none
  · rename_i request context passed
    have text := (session_text (session_parts passed).1).1
    have apart : request.sessionId ≠ sessionId := by simpa [within,text] using stays
    unfold finishTransfer
    split
    · exact adds_none
    · dsimp only
      split
      · exact adds_none
      · split
        · exact adds_none
        · exact adds_update_other apart

theorem streamError_adds {metadataPayload : Option Fields} {error : OSError} {currentTime : DateTime} :
    Adds sessionId 0 d.store (handleAssetUploadStreamError lib metadataPayload error currentTime d).2.store := by
  unfold handleAssetUploadStreamError
  split
  · exact adds_none
  · exact fail_adds

theorem insert_adds {store : Store} {folderPath : String} : Adds sessionId 0 store (insertFolder store folderPath).2 := by
  have same : (insertFolder store folderPath).2.sessions = store.sessions :=
    ReferentialStore.insertFolder_grows.sessions
  unfold Adds
  rw [same]
  exact adds_none

theorem step_adds {event : BackupEvent} (stays : within sessionId event = true)
    (taken : (backupSystem identity lib).step d event = some next) :
    Adds sessionId (acknowledgedIn lib sessionId d event).length d.store next.store := by
  cases event with
  | accept pairing => cases stays
  | start payload currentTime => cases taken; exact start_adds stays
  | upload call => cases taken; exact upload_adds
  | complete payload currentTime => cases taken; exact complete_adds stays
  | streamError metadataPayload error currentTime => cases taken; exact streamError_adds
  | insertFolder folderPath => cases taken; exact insert_adds
  | deleteFolders folderPaths => cases stays
  | files files => cases taken; exact adds_none

-- Whatever is repeated, the counter is the number of acknowledgements.
def CountsAcknowledged (sessionId : String) (total : Int) (s : Progress) : Prop :=
  (s.desktop.store.sessions.find? sessionId).map counters = some (total,(s.acknowledged.length : Int))

theorem counted_step {s next : Progress} {event : BackupEvent} (counts : CountsAcknowledged sessionId total s)
    (stays : within sessionId event = true) (taken : (progressSystem identity lib sessionId).step s event = some next) :
    CountsAcknowledged sessionId total next := by
  obtain ⟨desktop,stepped,rfl⟩ := Option.map_eq_some_iff.mp taken
  have added := step_adds stays stepped
  unfold CountsAcknowledged at counts ⊢
  obtain ⟨row,located,same⟩ := Option.map_eq_some_iff.mp counts
  obtain ⟨totals,transferred⟩ := Prod.mk.inj same
  unfold Adds at added
  rw [located,Option.map_some,totals,transferred] at added
  rw [added,List.length_append]
  simp

-- A start that is accepted sets the counter to nothing and the total to what it says.
theorem start_opens {payload : Fields} {currentTime : DateTime} {response : Response}
    (answered : handleStartRequest lib payload currentTime d = (.ok response,next)) (code : response.statusCode = 200)
    (named : response.sessionId = some sessionId) (announced : response.totalAssets = some total) :
    CountsAcknowledged sessionId total ⟨next,[]⟩ := by
  unfold handleStartRequest at answered
  split at answered
  · rename_i result refused
    obtain ⟨rfl,-⟩ := Prod.mk.inj answered
    obtain ⟨_,_,large,rfl⟩ := session_refused refused
    simp only [rejected] at code
    omega
  · rename_i request context passed
    unfold acceptStart at answered
    split at answered
    · cases answered
    · split at answered
      · cases answered
      · obtain ⟨response_,rfl⟩ := Prod.mk.inj answered
        obtain rfl := Except.ok.inj response_
        obtain rfl : request.sessionId = sessionId := Option.some.inj named
        obtain rfl : request.totalAssets.getD 0 = total := Option.some.inj announced
        obtain ⟨row,_,_,located,owner,-⟩ := context_parts (session_parts passed).2.1
        obtain ⟨count,counted⟩ := (session_text (session_parts passed).1).2 rfl
        have mine := (find_mem located).2
        dsimp only [id] at located owner mine
        unfold CountsAcknowledged
        dsimp only
        rw [update_find,located]
        simp [counters,mine,owner,counted]

theorem counted_reached {s next : Progress} (counts : CountsAcknowledged sessionId total s)
    (path : Reaches (progressSystem identity lib sessionId) (fun _ event => within sessionId event = true) s next) :
    CountsAcknowledged sessionId total next :=
  reaches_preserves (fun _ _ _ held stays taken => counted_step held stays taken) counts path

-- What a step acknowledges is new, so no id is acknowledged twice.
theorem distinct_step {s next : Progress} {event : BackupEvent} (distinct : s.acknowledged.Nodup)
    (fresh : unrepeated lib sessionId s event = true)
    (taken : (progressSystem identity lib sessionId).step s event = some next) : next.acknowledged.Nodup := by
  obtain ⟨desktop,-,rfl⟩ := Option.map_eq_some_iff.mp taken
  cases event with
  | upload call =>
      unfold acknowledgedIn
      dsimp only
      split
      · rename_i metadata response parsed _
        split
        · rename_i acknowledged
          have unseen : metadata.assetId ∉ s.acknowledged := by simpa [unrepeated,parsed,acknowledged.2] using fresh
          refine List.Nodup.append distinct (List.nodup_singleton _) ?_
          intro id seen new
          cases List.mem_singleton.mp new
          exact unseen seen
        · rwa [List.append_nil]
      · rwa [List.append_nil]
  | accept => simpa [acknowledgedIn] using distinct
  | start => simpa [acknowledgedIn] using distinct
  | complete => simpa [acknowledgedIn] using distinct
  | streamError => simpa [acknowledgedIn] using distinct
  | insertFolder => simpa [acknowledgedIn] using distinct
  | deleteFolders => simpa [acknowledgedIn] using distinct
  | files => simpa [acknowledgedIn] using distinct

-- The counter of a session in which no acknowledged asset is sent again.
theorem counter_counts_assets (identity : PairingService.DesktopIdentity) (lib : Libraries) (payload : Fields)
    (currentTime : DateTime) (before d : Desktop) (response : Response) (sessionId : String) (total : Int)
    (answered : handleStartRequest lib payload currentTime before = (.ok response,d)) (code : response.statusCode = 200)
    (named : response.sessionId = some sessionId) (announced : response.totalAssets = some total) (s : Progress)
    (path : Reaches (progressSystem identity lib sessionId)
      (fun s event => within sessionId event = true ∧ unrepeated lib sessionId s event = true) ⟨d,[]⟩ s) :
    CountsAssets sessionId total s := by
  have counts := counted_reached (start_opens answered code named announced) (reaches_weaken (fun _ _ => And.left) path)
  have preserved := @reaches_preserves _ _ (progressSystem identity lib sessionId)
    (fun s event => within sessionId event = true ∧ unrepeated lib sessionId s event = true) ⟨d,[]⟩ s
    (fun s => s.acknowledged.Nodup)
  have distinct : s.acknowledged.Nodup :=
    preserved (fun _ _ _ held allowed taken => distinct_step held allowed.2 taken) List.nodup_nil path
  obtain ⟨row,located,same⟩ := Option.map_eq_some_iff.mp counts
  obtain ⟨totals,transferred⟩ := Prod.mk.inj same
  have dedup : s.acknowledged.dedup = s.acknowledged := List.Nodup.dedup distinct
  refine ⟨row,located,?_,fun few => ?_⟩
  · rw [dedup]
    exact transferred
  · rw [dedup] at few
    rw [totals,transferred]
    exact few

def startPayload : Fields := sampleRequest startProofPurpose "session-1" [("total_assets",.int 1)]

def photoUpload : UploadCall := sampleCall "asset-1" "/tmp/1" "86f7e437faa5a7fce15d1ddcb9eaeaea377667b8"

def sessionShows (condition : Progress → BackupEvent → Prop) [∀ s event, Decidable (condition s event)]
    (events : List BackupEvent) (seen : Progress → Bool) : Bool :=
  match handleStartRequest runLibraries startPayload 0 sampleDesktop with
  | (.ok response,d) => response.statusCode = 200 && response.sessionId = some "session-1" && response.totalAssets = some 1 &&
      ((progressSystem runIdentity runLibraries "session-1").checkedRun condition ⟨d,[]⟩ events).any seen
  | _ => false

theorem session_shows {condition : Progress → BackupEvent → Prop} [∀ s event, Decidable (condition s event)]
    {events : List BackupEvent} {seen : Progress → Bool} (shown : sessionShows condition events seen = true) :
    ∃ response d s, handleStartRequest runLibraries startPayload 0 sampleDesktop = (.ok response,d) ∧
      response.statusCode = 200 ∧ response.sessionId = some "session-1" ∧ response.totalAssets = some 1 ∧
      Reaches (progressSystem runIdentity runLibraries "session-1") condition ⟨d,[]⟩ s ∧ seen s = true := by
  unfold sessionShows at shown
  split at shown
  · rename_i response d answered
    simp only [Bool.and_eq_true,decide_eq_true_eq] at shown
    obtain ⟨⟨⟨code,named⟩,announced⟩,ran⟩ := shown
    obtain ⟨s,path,here⟩ := checkedRun_exhibits _ _ _ events seen ran
    exact ⟨response,d,s,answered,code,named,announced,path,here⟩
  · cases shown

def countedAs (count : Int) (s : Progress) : Bool :=
  (s.desktop.store.sessions.find? "session-1").any fun row => row.transferredCount = count

-- The answer to the photo is lost and the phone sends it again: two of one transferred.
theorem repeated_upload_counted : ¬ ∀ (identity : PairingService.DesktopIdentity) (lib : Libraries) (payload : Fields)
    (currentTime : DateTime) (before d : Desktop) (response : Response) (sessionId : String) (total : Int),
    handleStartRequest lib payload currentTime before = (.ok response,d) → response.statusCode = 200 →
    response.sessionId = some sessionId → response.totalAssets = some total → ∀ s : Progress,
    Reaches (progressSystem identity lib sessionId) (fun _ event => within sessionId event = true) ⟨d,[]⟩ s →
    CountsAssets sessionId total s := by
  intro all
  obtain ⟨response,d,s,answered,code,named,announced,path,seen⟩ := @session_shows
    (fun _ event => within "session-1" event = true) _ [.files (writeFile .empty (.staged "/tmp/1") [97]),
      .upload photoUpload,.upload photoUpload] (fun s => countedAs 2 s && s.acknowledged.dedup.length = 1)
    (by decide +kernel)
  obtain ⟨row,located,counted,-⟩ := all runIdentity runLibraries startPayload 0 sampleDesktop d response "session-1" 1
    answered code named announced s path
  simp only [countedAs,located,Option.any_some,Bool.and_eq_true,decide_eq_true_eq] at seen
  rw [seen.1,seen.2] at counted
  exact absurd counted (by decide)

theorem one_photo_counted : ∃ s : Progress, CountsAssets "session-1" 1 s ∧ s.acknowledged = ["asset-1"] := by
  obtain ⟨response,d,s,answered,code,named,announced,path,seen⟩ := @session_shows
    (fun s event => within "session-1" event = true ∧ unrepeated runLibraries "session-1" s event = true) _
    [.files (writeFile .empty (.staged "/tmp/1") [97]),.upload photoUpload] (fun s => s.acknowledged = ["asset-1"])
    (by decide +kernel)
  exact ⟨s,counter_counts_assets runIdentity runLibraries startPayload 0 sampleDesktop d response "session-1" 1 answered code
    named announced s path,of_decide_eq_true seen⟩

end ImageSearch.TransferCounts
