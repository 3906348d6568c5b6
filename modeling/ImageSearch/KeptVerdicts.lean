import ImageSearch.AdaptiveTransfers

namespace ImageSearch.KeptVerdicts
open Payload Tables BackupFolder MobileStore TransferService UploadOutcomes TransferClients PhoneUploads
open AdaptiveTransfers

def isVerdict : Thrown → Bool
  | .client (.rejected _) | .client (.terminalFailure _ _) => true
  | _ => false

section Attempts
variable {W α : Type} {env : Environment W} {desktop : RoutedDesktop} {phone : Phone W}

-- What no second transport should be asked after: a verdict, or the end of the task.
def isFinal (env : Environment W) (error : Thrown) (after : Phone W) : Bool :=
  isVerdict error || error == .cancellation || env.isCancelled after.world

def firstTransport (env : Environment W) (desktop : RoutedDesktop) (request : Request W) (phone : Phone W) :
    Transport × Phone W :=
  selectTransport env desktop request.preferredTransport (request.entered desktop phone)

def firstAttempt (env : Environment W) (desktop : RoutedDesktop) (request : Request W) (phone : Phone W) :
    Except Thrown request.Result × Phone W :=
  request.operation env desktop (firstTransport env desktop request phone).1 (firstTransport env desktop request phone).2

def Decided (env : Environment W) (desktop : RoutedDesktop) (request : Request W) (phone : Phone W) : Prop :=
  ∃ error after, firstAttempt env desktop request phone = (.error error,after) ∧ isFinal env error after = true

-- What has been decided is what the call ends with, and no other client is called.
def Survives (env : Environment W) (desktop : RoutedDesktop) (request : Request W) (phone : Phone W) : Prop :=
  ∀ error after, firstAttempt env desktop request phone = (.error error,after) → isFinal env error after = true →
    (perform env desktop request phone).result = .error error ∧
    (perform env desktop request phone).attempts = [⟨(firstTransport env desktop request phone).1,some error⟩]

def thrownBy : Except Thrown α → Option Thrown
  | .ok _ => none
  | .error error => some error

section Execution
variable {preferredTransport : Option Transport} {operation : Transport → Attempt W α} {transport : Transport}
  {start after : Phone W}

theorem execute_succeeds {value : α} (selected : selectTransport env desktop preferredTransport phone = (transport,start))
    (succeeded : operation transport start = (.ok value,after)) :
    (executeWithFallback env desktop preferredTransport operation phone).result = .ok value ∧
      (executeWithFallback env desktop preferredTransport operation phone).attempts = [⟨transport,none⟩] := by
  simp [executeWithFallback,selected,succeeded]

-- Whatever was thrown first, the other client is called, and the call ends as that one does.
theorem execute_again {error : Thrown} (selected : selectTransport env desktop preferredTransport phone = (transport,start))
    (failed : operation transport start = (.error error,after)) :
    ∃ between : Phone W, between.world = after.world ∧
      (executeWithFallback env desktop preferredTransport operation phone).result =
        (operation (otherTransport transport) between).1 ∧
      (executeWithFallback env desktop preferredTransport operation phone).attempts =
        [⟨transport,some error⟩,⟨otherTransport transport,thrownBy (operation (otherTransport transport) between).1⟩] := by
  unfold executeWithFallback
  simp only [selected,failed]
  refine ⟨if preferredTransport = some transport then after.markPreferredTransportUnavailable env transport desktop
    else after,?_,?_⟩
  · split <;> rfl
  · generalize (if preferredTransport = some transport then after.markPreferredTransportUnavailable env transport desktop
      else after) = between
    cases ended : operation (otherTransport transport) between with
    | mk result last =>
        cases result with
        | ok value => exact ⟨rfl,rfl⟩
        | error second => exact ⟨rfl,rfl⟩

end Execution

theorem first_selected (request : Request W) :
    selectTransport env desktop request.preferredTransport (request.entered desktop phone) =
      ((firstTransport env desktop request phone).1,(firstTransport env desktop request phone).2) := rfl

theorem survives_undecided (request : Request W) :
    Survives env desktop request phone ↔ ¬ Decided env desktop request phone := by
  constructor
  · rintro survives ⟨error,after,failed,final⟩
    have once := (survives error after failed final).2
    obtain ⟨between,-,-,tried⟩ := execute_again (first_selected request) failed
    unfold perform at once
    rw [tried] at once
    simp at once
  · intro undecided error after failed final
    exact absurd ⟨error,after,failed,final⟩ undecided

-- Of one prepared asset: what the desktop's disk_full must come to, and that an upload that
-- is decided is not made again.
structure StopsRun (env : Environment W) (asset : ExportedTransferAsset) (desktop : RoutedDesktop)
    (preferredTransport : Option Transport) (onChunkTransferred : Option (Nat → Phone W → Phone W)) (phone : Phone W) :
    Prop where
  reported : ∀ tried ∈ (performPreparedAssetUpload env asset desktop preferredTransport onChunkTransferred phone).uploads,
    ∀ message, tried.thrown = some (.client (.terminalFailure .diskFull message)) →
    (performPreparedAssetUpload env asset desktop preferredTransport onChunkTransferred phone).result.terminalFailureCode =
      some .diskFull
  stopped : ∀ tried ∈ (performPreparedAssetUpload env asset desktop preferredTransport onChunkTransferred phone).uploads,
    ∀ message, tried.thrown = some (.client (.terminalFailure .diskFull message)) →
    ∀ (run : ExportPipelines.Run) (preparedAsset : ExportPipelines.PreparedTransferAsset),
    (ExportPipelines.processUploadResult run preparedAsset (performPreparedAssetUpload env asset desktop preferredTransport
      onChunkTransferred phone).result.pipelineResult).uploading.consumer = .terminating
  once : ∀ start, checkExistence env asset desktop preferredTransport phone = (.ok none,start) →
    Survives env desktop (.uploadAsset asset preferredTransport onChunkTransferred) start

variable {asset : ExportedTransferAsset} {preferredTransport : Option Transport}
  {onChunkTransferred : Option (Nat → Phone W → Phone W)}

theorem full_stops {result : AdaptiveTransfers.PreparedTransferUploadResult} (full : result.terminalFailureCode = some .diskFull)
    (run : ExportPipelines.Run) (preparedAsset : ExportPipelines.PreparedTransferAsset) :
    (ExportPipelines.processUploadResult run preparedAsset result.pipelineResult).uploading.consumer = .terminating := by
  unfold PreparedTransferUploadResult.pipelineResult
  rw [if_pos full]
  rfl

theorem upload_unmade {looked : Except Thrown (Option TransferAssetExistenceMatch)} {start : Phone W}
    (checked : checkExistence env asset desktop preferredTransport phone = (looked,start)) (ended : looked ≠ .ok none) :
    (performPreparedAssetUpload env asset desktop preferredTransport onChunkTransferred phone).uploads = [] := by
  unfold performPreparedAssetUpload
  rw [checked]
  cases looked with
  | error error => rfl
  | ok found =>
      cases found with
      | none => exact absurd rfl ended
      | some existingMatch => rfl

theorem upload_made {start : Phone W} (checked : checkExistence env asset desktop preferredTransport phone = (.ok none,start)) :
    (performPreparedAssetUpload env asset desktop preferredTransport onChunkTransferred phone).uploads =
      (uploadAsset env asset desktop preferredTransport onChunkTransferred start).attempts ∧
    (∀ response, (uploadAsset env asset desktop preferredTransport onChunkTransferred start).result = .ok response →
      (performPreparedAssetUpload env asset desktop preferredTransport onChunkTransferred phone).result =
        {response:=some response}) ∧
    ∀ error, (uploadAsset env asset desktop preferredTransport onChunkTransferred start).result = .error error →
      (performPreparedAssetUpload env asset desktop preferredTransport onChunkTransferred phone).result = failedUpload env error := by
  unfold performPreparedAssetUpload
  rw [checked]
  simp only
  cases ended : (uploadAsset env asset desktop preferredTransport onChunkTransferred start).result with
  | ok response => exact ⟨rfl,fun value equal => by cases equal; rfl,nofun⟩
  | error second => exact ⟨rfl,nofun,fun error equal => by cases equal; rfl⟩

theorem full_reported {start : Phone W} (checked : checkExistence env asset desktop preferredTransport phone = (.ok none,start))
    (undecided : ¬ Decided env desktop (.uploadAsset asset preferredTransport onChunkTransferred) start) {tried : Tried}
    {message : String}
    (made : tried ∈ (performPreparedAssetUpload env asset desktop preferredTransport onChunkTransferred phone).uploads)
    (full : tried.thrown = some (.client (.terminalFailure .diskFull message))) :
    (performPreparedAssetUpload env asset desktop preferredTransport onChunkTransferred phone).result.terminalFailureCode =
      some .diskFull := by
  obtain ⟨uploads,-,failing⟩ := @upload_made W env desktop phone asset preferredTransport onChunkTransferred start checked
  rw [uploads] at made
  have selected := @first_selected W env desktop start (.uploadAsset asset preferredTransport onChunkTransferred)
  cases ended : firstAttempt env desktop (.uploadAsset asset preferredTransport onChunkTransferred) start with
  | mk first after =>
      cases first with
      | ok value =>
          have succeeds := (execute_succeeds selected ended).2
          unfold uploadAsset perform at made
          rw [succeeds] at made
          cases List.mem_singleton.mp made
          cases full
      | error error =>
          obtain ⟨between,-,result,attempts⟩ := execute_again selected ended
          unfold uploadAsset perform at made failing
          rw [attempts] at made
          rw [result] at failing
          rcases List.mem_cons.mp made with rfl | second
          · cases full
            exact absurd ⟨_,_,ended,rfl⟩ undecided
          · cases List.mem_singleton.mp second
            have last : ((Request.uploadAsset asset preferredTransport onChunkTransferred).operation env desktop
                (otherTransport (firstTransport env desktop
                  (.uploadAsset asset preferredTransport onChunkTransferred) start).1) between).1 =
                .error (.client (.terminalFailure .diskFull message)) := by
              unfold thrownBy at full
              split at full
              · cases full
              · rename_i thrown there
                rw [there]
                cases full
                rfl
            rw [failing _ last]
            rfl

theorem stops_undecided : StopsRun env asset desktop preferredTransport onChunkTransferred phone ↔
    ∀ start, checkExistence env asset desktop preferredTransport phone = (.ok none,start) →
      ¬ Decided env desktop (.uploadAsset asset preferredTransport onChunkTransferred) start := by
  constructor
  · intro stops start checked
    exact (survives_undecided _).mp (stops.once start checked)
  · intro undecided
    have reported : ∀ tried ∈ (performPreparedAssetUpload env asset desktop preferredTransport onChunkTransferred phone).uploads,
        ∀ message, tried.thrown = some (.client (.terminalFailure .diskFull message)) →
        (performPreparedAssetUpload env asset desktop preferredTransport onChunkTransferred
          phone).result.terminalFailureCode = some .diskFull := by
      intro tried made message full
      cases checked : checkExistence env asset desktop preferredTransport phone with
      | mk looked start =>
          by_cases ready : looked = .ok none
          · cases ready
            exact full_reported checked (undecided start checked) made full
          · rw [upload_unmade checked ready] at made
            cases made
    refine ⟨reported,?_,?_⟩
    · intro tried made message full
      exact full_stops (reported tried made message full)
    · intro start checked
      exact (survives_undecided _).mpr (undecided start checked)

end Attempts

theorem verdict_survives {W : Type} (env : Environment W) (desktop : RoutedDesktop) (phone : Phone W) :
    (∀ request, Survives env desktop request phone ↔ ¬ Decided env desktop request phone) ∧
    ∀ asset preferredTransport onChunkTransferred,
      StopsRun env asset desktop preferredTransport onChunkTransferred phone ↔
        ∀ start, checkExistence env asset desktop preferredTransport phone = (.ok none,start) →
          ¬ Decided env desktop (.uploadAsset asset preferredTransport onChunkTransferred) start := by
  refine ⟨fun request => survives_undecided request,?_⟩
  intro asset preferredTransport onChunkTransferred
  exact stops_undecided

def serverStatus : ReplyStatus → Option ExportPipelines.ServerStatus
  | .rejected => some .rejected
  | .accepted => some .accepted
  | .checked => none
  | .skipped => some .skipped
  | .stored => some .stored
  | .completed => some .completed

def decodeServerResponse (response : Response) : Option TransferServerResponse := do
  let status ← serverStatus response.status
  let failureCode ← match response.failureCode with
    | none => some none
    | some code => if code = failureCodeDiskFull then some (some TransferFailureCode.diskFull) else none
  return ⟨status,response.message,response.localRelativePath.map RelativePath.asPosix,failureCode⟩

-- An upload that reaches the desktop as this call, whichever transport carries it.
def deliver (lib : Libraries) (call : UploadCall) : Attempt Desktop TransferServerResponse := fun phone =>
  let answered := handleAssetUpload lib call phone.world
  let result : Except Thrown TransferServerResponse :=
    match answered.1 with
    | .error _ => .error (.client (.transport "The network connection was lost."))
    | .ok response =>
      match decodeServerResponse response with
      | none => .error (.client (.decoding "The data couldn’t be read because it isn’t in the correct format."))
      | some decoded => uploadResponse response.statusCode decoded
  (result,{phone with world:=answered.2})

section Desktops
variable {lib : Libraries} {call again : UploadCall} {d d' : Desktop} {metadata : MobileTransferAssetMetadata}
  {context : MobileTransferContext} {response : Response} {store : Store} {sessionId deviceUuid : String}

def Failed (store : Store) (sessionId deviceUuid : String) : Prop :=
  ∀ row, store.sessions.find? sessionId = some row → row.deviceUuid = deviceUuid → row.status = .failed

theorem refuse_uncoded {refusal : Response} (refused : refuseUpload call metadata = some refusal) :
    refusal.failureCode = none := by
  unfold refuseUpload at refused
  split at refused
  · cases refused; rfl
  · split at refused
    · cases refused; rfl
    · split at refused
      · cases refused; rfl
      · cases refused

theorem check_uncoded {cleans : Bool} (refused : checkUpload lib call store = .refused cleans (.ok response)) :
    response.failureCode = none := by
  unfold checkUpload at refused
  split at refused
  · cases refused; rfl
  · split at refused
    · cases refused; rfl
    · cases refused
    · split at refused
      · rename_i refusal unaccepted
        cases refused
        exact refuse_uncoded unaccepted
      · split at refused
        · cases refused
        · cases refused; rfl
        · cases refused

theorem fail_marks {currentTime : DateTime} {publish : Bool}
    (failed : failTransfer context currentTime publish response d = (.ok response,d')) :
    Failed d'.store context.sessionId context.deviceUuid := by
  unfold failTransfer at failed
  split at failed
  · cases failed
  · rename_i marked done
    cases failed
    unfold markTransferFailed at done
    split at done
    · cases done
    · cases done
      intro row there owner
      rw [update_find] at there
      obtain ⟨before,found,rfl⟩ := Option.map_eq_some_iff.mp there
      have key := (find_mem found).2
      split
      · rfl
      · rename_i differs
        split at owner
        · rename_i same
          exact absurd same differs
        · simp only [Bool.and_eq_true,decide_eq_true_eq] at differs
          exact absurd ⟨key,owner⟩ differs

-- A failure code is given only to a request that has failed its session.
theorem coded_fails (answered : handleAssetUpload lib call d = (.ok response,d')) (coded : response.failureCode ≠ none) :
    ∃ metadata, parseTransferAssetMetadata lib call.metadataPayload = .ok metadata ∧
      Failed d'.store metadata.sessionId metadata.deviceUuid := by
  unfold handleAssetUpload at answered
  split at answered
  · rename_i cleans result refused
    cases answered
    exact absurd (check_uncoded refused) coded
  · rename_i metadata context passed
    have accepted := check_passed passed
    have located := (authorise_parts accepted.granted).1
    obtain ⟨session,device,folder,-,-,-,-,rfl⟩ := context_parts located
    refine ⟨metadata,accepted.parsed,?_⟩
    unfold uploadAuthorised at answered
    split at answered
    · cases answered
    · cases answered; exact absurd rfl coded
    · split at answered
      · cases answered; exact absurd rfl coded
      · unfold storeUpload at answered
        split at answered
        · rename_i error files written
          have said : response = storeFailedResponse error := by
            unfold failTransfer at answered
            split at answered
            · cases answered
            · cases answered; rfl
          subst said
          exact fail_marks answered
        · cases answered; exact absurd rfl coded

theorem failed_unauthorised {purpose schema trustProof : String} (failed : Failed store sessionId deviceUuid) :
    authoriseTransfer lib store purpose [.transferring] schema sessionId deviceUuid trustProof = .ok none := by
  unfold authoriseTransfer
  cases located : getMobileTransferContext store sessionId deviceUuid with
  | none => rfl
  | some context =>
      obtain ⟨session,device,folder,found,owner,-,-,rfl⟩ := context_parts located
      have status : session.status = .failed := failed session found owner
      simp [status]

-- What has failed its session is given no failure code when it comes again.
theorem again_uncoded (failed : Failed d.store sessionId deviceUuid)
    (same : ∀ metadata, parseTransferAssetMetadata lib again.metadataPayload = .ok metadata →
      metadata.sessionId = sessionId ∧ metadata.deviceUuid = deviceUuid)
    (answered : handleAssetUpload lib again d = (.ok response,d')) : response.failureCode = none := by
  unfold handleAssetUpload at answered
  split at answered
  · rename_i cleans result refused
    cases answered
    exact check_uncoded refused
  · rename_i metadata context passed
    have accepted := check_passed passed
    obtain ⟨rfl,rfl⟩ := same metadata accepted.parsed
    have granted := accepted.granted
    rw [failed_unauthorised failed] at granted
    cases granted

theorem decode_code {decoded : TransferServerResponse} (read : decodeServerResponse response = some decoded)
    (uncoded : response.failureCode = none) : decoded.failureCode = none := by
  unfold decodeServerResponse at read
  rw [uncoded] at read
  obtain ⟨status,-,read⟩ := Option.bind_eq_some_iff.mp read
  cases read
  rfl

theorem upload_coded {statusCode : Nat} {decoded : TransferServerResponse} {code : TransferFailureCode} {message : String}
    (ended : uploadResponse statusCode decoded = .error (.client (.terminalFailure code message))) :
    decoded.failureCode ≠ none := by
  have coded : decoded.rejectionError = .terminalFailure code message → decoded.failureCode ≠ none := by
    intro rejection absent
    unfold TransferServerResponse.rejectionError at rejection
    rw [absent] at rejection
    cases rejection
  unfold uploadResponse at ended
  split at ended
  · cases refusal : decoded.rejectionError <;> rw [refusal] at ended <;> cases ended
    exact coded refusal
  · split at ended
    · cases ended
    · cases ended
    · cases refusal : decoded.rejectionError <;> rw [refusal] at ended <;> cases ended
      exact coded refusal
    · cases ended
    · cases ended

theorem deliver_coded {phone : Phone Desktop} {code : TransferFailureCode} {message : String}
    (ended : (deliver lib call phone).1 = .error (.client (.terminalFailure code message))) :
    ∃ response, handleAssetUpload lib call phone.world = (.ok response,(deliver lib call phone).2.world) ∧
      response.failureCode ≠ none := by
  unfold deliver at ended ⊢
  simp only at ended ⊢
  generalize handleAssetUpload lib call phone.world = answered at ended
  obtain ⟨answer,d'⟩ := answered
  cases answer with
  | error raised => cases ended
  | ok response =>
      refine ⟨response,rfl,?_⟩
      intro uncoded
      cases read : decodeServerResponse response with
      | none => simp [read] at ended
      | some decoded =>
          simp only [read] at ended
          exact upload_coded ended (decode_code read uncoded)

-- Both clients bring the upload to this desktop. Once its disk was full over one link, the
-- answer over the other is all that is left, and it names no failure.
theorem disk_full_lost {env : Environment Desktop} {desktop : RoutedDesktop} {phone start after : Phone Desktop}
    {asset : ExportedTransferAsset} {preferredTransport : Option Transport}
    {onChunkTransferred : Option (Nat → Phone Desktop → Phone Desktop)} {calls : Transport → UploadCall} {message : String}
    (carried : ∀ transport, (Request.uploadAsset asset preferredTransport onChunkTransferred).operation env desktop transport =
      deliver lib (calls transport))
    (same : ∀ one two metadata metadata', parseTransferAssetMetadata lib (calls one).metadataPayload = .ok metadata →
      parseTransferAssetMetadata lib (calls two).metadataPayload = .ok metadata' →
      metadata'.sessionId = metadata.sessionId ∧ metadata'.deviceUuid = metadata.deviceUuid)
    (checked : checkExistence env asset desktop preferredTransport phone = (.ok none,start))
    (full : firstAttempt env desktop (.uploadAsset asset preferredTransport onChunkTransferred) start =
      (.error (.client (.terminalFailure .diskFull message)),after)) :
    (performPreparedAssetUpload env asset desktop preferredTransport onChunkTransferred phone).result.terminalFailureCode =
        none ∧
      (performPreparedAssetUpload env asset desktop preferredTransport onChunkTransferred phone).uploads.map Tried.transport =
        [(firstTransport env desktop (.uploadAsset asset preferredTransport onChunkTransferred) start).1,
          otherTransport (firstTransport env desktop (.uploadAsset asset preferredTransport onChunkTransferred) start).1] := by
  obtain ⟨between,world,result,attempts⟩ := execute_again (first_selected _) full
  obtain ⟨uploads,succeeding,failing⟩ :=
    @upload_made Desktop env desktop phone asset preferredTransport onChunkTransferred start checked
  unfold uploadAsset perform at uploads succeeding failing
  refine ⟨?_,by rw [uploads,attempts]; rfl⟩
  have first := congrArg Prod.fst full
  have marked := congrArg (fun ended => ended.2.world) full
  unfold firstAttempt at first marked
  rw [carried] at first marked
  obtain ⟨response,answered,coded⟩ := deliver_coded first
  obtain ⟨metadata,parsed,failed⟩ := coded_fails answered coded
  rw [marked,← world] at failed
  rw [carried] at result
  cases second : (deliver lib (calls (otherTransport (firstTransport env desktop
      (.uploadAsset asset preferredTransport onChunkTransferred) start).1)) between).1 with
  | ok value =>
      rw [succeeding value (result.trans second)]
  | error error =>
      rw [failing error (result.trans second)]
      unfold failedUpload
      split
      · rename_i clientError
        cases clientError with
        | terminalFailure code said =>
            obtain ⟨response,answered,coded⟩ := deliver_coded second
            exact absurd (again_uncoded failed (fun metadata' read => same _ _ metadata metadata' parsed read) answered) coded
        | _ => rfl
      · rfl

end Desktops

-- The disk of a desktop is full while a photo reaches it over USB; a LAN client stands by.
def sampleClient : MobileTransferClient Desktop where
  startSession _ _ phone := (.ok (),phone)
  lookupExistingAssets _ _ phone := (.ok [],phone)
  uploadAsset _ _ := deliver sampleLibraries fullDiskCall
  completeSession _ _ _ _ phone := (.error (.client (.transport "The network connection was lost.")),phone)
  uploadAssetWithChunkProgress := none
  exchangeCapabilities := none
  sendUpdatePrompt := none
  isUSBTransportConnected := some fun phone => (true,phone)

def sampleEnvironment : Environment Desktop where
  lanClient := sampleClient
  usbClient := sampleClient
  now _ := 0
  isCancelled _ := false
  describe _ := ""
  trimmingCharacters text := text

def sampleRoute : RoutedDesktop := ⟨"desktop-1","session-1",.lan⟩
def samplePhone : Phone Desktop := ⟨⟨fun _ => none,fun _ _ => none⟩,stagedDesktop⟩
def samplePhoto : ExportedTransferAsset :=
  ⟨"asset-1","v1","IMG_0001.JPG","image",none,none,"86f7e437faa5a7fce15d1ddcb9eaeaea377667b8",[97]⟩

theorem full_disk_delivered : (deliver sampleLibraries fullDiskCall samplePhone).1 =
    .error (.client (.terminalFailure .diskFull diskFullMessage)) := by
  have answered : (handleAssetUpload sampleLibraries fullDiskCall stagedDesktop).1 = .ok diskFullRejected := full_disk_answered
  unfold deliver
  simp only [samplePhone,answered]
  rfl

theorem sample_carried (transport : Transport) :
    (Request.uploadAsset samplePhoto (some .usb) none).operation sampleEnvironment sampleRoute transport =
      deliver sampleLibraries fullDiskCall := by
  cases transport <;> rfl

theorem full_disk_first :
    firstAttempt sampleEnvironment sampleRoute (.uploadAsset samplePhoto (some .usb) none) samplePhone =
      (.error (.client (.terminalFailure .diskFull diskFullMessage)),(deliver sampleLibraries fullDiskCall samplePhone).2) := by
  have selected : (firstTransport sampleEnvironment sampleRoute (.uploadAsset samplePhoto (some .usb) none) samplePhone).2 =
      samplePhone := rfl
  unfold firstAttempt
  rw [sample_carried,selected]
  exact Prod.ext full_disk_delivered rfl

-- The desktop answers disk_full over USB and 403 over LAN: no failure code is reported.
theorem disk_full_forgotten :
    (firstAttempt sampleEnvironment sampleRoute (.uploadAsset samplePhoto (some .usb) none) samplePhone).1 =
      .error (.client (.terminalFailure .diskFull diskFullMessage)) ∧
    (performPreparedAssetUpload sampleEnvironment samplePhoto sampleRoute (some .usb) none samplePhone).result.terminalFailureCode =
      none ∧
    (performPreparedAssetUpload sampleEnvironment samplePhoto sampleRoute (some .usb) none samplePhone).uploads.map
      Tried.transport = [.usb,.lan] ∧
    ¬ ∀ (env : Environment Desktop) (desktop : RoutedDesktop) (phone : Phone Desktop),
      (∀ request, Survives env desktop request phone) ∧ ∀ asset preferredTransport onChunkTransferred,
        StopsRun env asset desktop preferredTransport onChunkTransferred phone := by
  obtain ⟨forgotten,links⟩ := @disk_full_lost sampleLibraries sampleEnvironment sampleRoute samplePhone samplePhone _
    samplePhoto (some .usb) none (fun _ => fullDiskCall) _ sample_carried
    (fun _ _ metadata metadata' read reread => by cases read.symm.trans reread; exact ⟨rfl,rfl⟩) rfl full_disk_first
  refine ⟨congrArg Prod.fst full_disk_first,forgotten,links,?_⟩
  intro all
  have stops := (all sampleEnvironment sampleRoute samplePhone).2 samplePhoto (some .usb) none
  exact stops_undecided.mp stops samplePhone rfl ⟨_,_,full_disk_first,rfl⟩

end ImageSearch.KeptVerdicts
