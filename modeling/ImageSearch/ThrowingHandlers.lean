import ImageSearch.CapabilityExchange
import ImageSearch.UploadOutcomes

namespace ImageSearch.ThrowingHandlers
open Payload BackupState MobileStore TransferService UploadOutcomes CapabilityExchange

section Escapes
variable {α β : Type} {x : Except Raised α} {f : α → Except Raised β}

def Returns (result : Except Raised α) : Prop := ∃ response, result = .ok response

def Throws (result : Except Raised α) : Prop := ∃ raised, result = .error raised

-- What a handler's `except ValueError` does not catch.
def Escapes (result : Except Raised α) : Prop :=
  ∃ raised, result = .error raised ∧ ∀ message, raised ≠ .valueError message

def Parses (result : Except Raised α) : Prop := ∃ value, result = .ok value

theorem returns_iff : Returns x ↔ ¬ Throws x := by
  cases x with
  | error raised => simp [Returns,Throws]
  | ok value => simp [Returns,Throws]

theorem escapes_ok {value : α} : ¬ Escapes (.ok value : Except Raised α) := by
  rintro ⟨raised,failed,-⟩
  cases failed

theorem escapes_value {message : String} : ¬ Escapes (.error (.valueError message) : Except Raised α) := by
  rintro ⟨raised,failed,escapes⟩
  cases failed
  exact escapes message rfl

theorem escapes_bind : Escapes (x >>= f) ↔ Escapes x ∨ ∃ value, x = .ok value ∧ Escapes (f value) := by
  cases x with
  | error raised =>
      have same : ((.error raised : Except Raised α) >>= f) = .error raised := rfl
      rw [same]
      constructor
      · rintro ⟨other,failed,escapes⟩
        cases failed
        exact .inl ⟨raised,rfl,escapes⟩
      · rintro (⟨other,failed,escapes⟩ | ⟨value,done,-⟩)
        · cases failed
          exact ⟨raised,rfl,escapes⟩
        · cases done
  | ok value =>
      have same : ((.ok value : Except Raised α) >>= f) = f value := rfl
      rw [same]
      constructor
      · exact fun escapes => .inr ⟨value,rfl,escapes⟩
      · rintro (escapes | ⟨other,done,escapes⟩)
        · exact absurd escapes escapes_ok
        · cases done
          exact escapes

-- A check that only ever raises ValueError hands the question on.
theorem escapes_after {later : Prop} (checks : ¬ Escapes x) (rest : ∀ value, Escapes (f value) ↔ later) :
    Escapes (x >>= f) ↔ Parses x ∧ later := by
  rw [escapes_bind]
  constructor
  · rintro (escapes | ⟨value,done,escapes⟩)
    · exact absurd escapes checks
    · exact ⟨⟨value,done⟩,(rest value).mp escapes⟩
  · rintro ⟨⟨value,done⟩,escapes⟩
    exact .inr ⟨value,done,(rest value).mpr escapes⟩

theorem checks_after (checks : ¬ Escapes x) (rest : ∀ value, ¬ Escapes (f value)) : ¬ Escapes (x >>= f) := by
  rw [escapes_bind]
  rintro (escapes | ⟨value,-,escapes⟩)
  · exact checks escapes
  · exact rest value escapes

-- Of a list, the first item that does not parse decides.
theorem escapes_mapM {Item : Type} {parse : Item → Except Raised α} {items : List Item} :
    Escapes (items.mapM parse) ↔ ∃ before item after, items = before ++ item :: after ∧
      (∀ earlier ∈ before, Parses (parse earlier)) ∧ Escapes (parse item) := by
  induction items with
  | nil =>
      have nothing : ¬ Escapes (pure [] : Except Raised (List α)) := escapes_ok
      simpa using nothing
  | cons head rest ih =>
      rw [List.mapM_cons,escapes_bind]
      constructor
      · rintro (escapes | ⟨value,done,escapes⟩)
        · exact ⟨[],head,rest,rfl,by simp,escapes⟩
        · rcases escapes_bind.mp escapes with later | ⟨values,-,none⟩
          · obtain ⟨before,item,after,rfl,parsed,escapes⟩ := ih.mp later
            refine ⟨head :: before,item,after,rfl,?_,escapes⟩
            intro earlier member
            rcases List.mem_cons.mp member with rfl | old
            · exact ⟨value,done⟩
            · exact parsed earlier old
          · exact absurd none escapes_ok
      · rintro ⟨before,item,after,split,parsed,escapes⟩
        cases before with
        | nil =>
            cases split
            exact .inl escapes
        | cons first before =>
            cases split
            obtain ⟨value,done⟩ := parsed head List.mem_cons_self
            refine .inr ⟨value,done,escapes_bind.mpr (.inl (ih.mpr ⟨before,item,after,rfl,?_,escapes⟩))⟩
            exact fun earlier member => parsed earlier (List.mem_cons_of_mem _ member)

end Escapes

variable {lib : Libraries} {payload : Fields} {fieldName : String} {store : Store} {d : Desktop}

theorem required_checks : ¬ Escapes (requireNonEmptyString payload fieldName) := by
  unfold requireNonEmptyString
  split
  · split
    · exact escapes_value
    · exact escapes_ok
  · exact escapes_value

theorem optional_checks : ¬ Escapes (optionalNonEmptyString payload fieldName) := by
  unfold optionalNonEmptyString
  split
  · exact escapes_ok
  · exact escapes_ok
  · exact escapes_value

theorem requiredSha1_checks : ¬ Escapes (requireSha1Hex payload fieldName) := by
  unfold requireSha1Hex
  rw [escapes_bind]
  rintro (escapes | ⟨value,-,escapes⟩)
  · exact required_checks escapes
  · split at escapes
    · exact escapes_ok escapes
    · exact escapes_value escapes

theorem optionalSha1_checks : ¬ Escapes (optionalSha1Hex payload fieldName) := by
  unfold optionalSha1Hex
  rw [escapes_bind]
  rintro (escapes | ⟨value,-,escapes⟩)
  · exact optional_checks escapes
  · cases value with
    | none => exact escapes_ok escapes
    | some text =>
        simp only at escapes
        split at escapes
        · exact escapes_ok escapes
        · exact escapes_value escapes

theorem requiredInt_checks : ¬ Escapes (requireNonNegativeInt payload fieldName) := by
  unfold requireNonNegativeInt
  split
  · split
    · exact escapes_value
    · exact escapes_ok
  · exact escapes_value

theorem optionalInt_checks : ¬ Escapes (optionalNonNegativeInt payload fieldName) := by
  unfold optionalNonNegativeInt
  split
  · exact escapes_ok
  · intro escapes
    cases outcome : requireNonNegativeInt payload fieldName with
    | ok value => rw [outcome] at escapes; exact escapes_ok escapes
    | error raised =>
        rw [outcome] at escapes
        obtain ⟨other,failed,never⟩ := escapes
        cases failed
        exact requiredInt_checks ⟨raised,outcome,never⟩

-- A text that fromisoformat reads and whose UTC value astimezone cannot represent.
def OutOfRange (lib : Libraries) (value : String) : Prop :=
  ∃ instant, lib.fromisoformat (if value.toList.getLast? = some 'Z' then
    String.ofList value.toList.dropLast ++ "+00:00" else value) = some instant ∧
    ¬ (earliest ≤ instant ∧ instant ≤ latest)

def TimestampOverflows (lib : Libraries) (payload : Fields) (fieldName : String) : Prop :=
  ∃ text, Payload.get payload fieldName = .string text ∧ strip text ≠ "" ∧ OutOfRange lib (strip text)

theorem escapes_timestamp {value : String} : Escapes (parseOptionalTimestamp lib (some value)) ↔ OutOfRange lib value := by
  unfold parseOptionalTimestamp OutOfRange
  dsimp only
  split
  · rename_i unread
    simp [unread,escapes_value]
  · rename_i instant read
    split
    · rename_i inside
      refine iff_of_false escapes_ok ?_
      rintro ⟨other,same,outside⟩
      rw [read] at same
      cases same
      exact outside inside
    · rename_i outside
      exact iff_of_true ⟨.overflowError,rfl,by simp⟩ ⟨instant,read,outside⟩

theorem escapes_required_timestamp :
    Escapes (requireTimestamp lib payload fieldName) ↔ TimestampOverflows lib payload fieldName := by
  unfold requireTimestamp
  rw [escapes_bind]
  constructor
  · rintro (escapes | ⟨text,done,escapes⟩)
    · exact absurd escapes required_checks
    · have read : Escapes (parseOptionalTimestamp lib (some text)) := by
        rcases escapes_bind.mp escapes with read | ⟨instant,-,none⟩
        · exact read
        · cases instant with
          | none => exact absurd none escapes_value
          | some instant => exact absurd none escapes_ok
      unfold requireNonEmptyString at done
      split at done
      · rename_i value found
        split at done
        · cases done
        · rename_i present
          cases done
          exact ⟨value,found,present,escapes_timestamp.mp read⟩
      · cases done
  · rintro ⟨text,found,present,outside⟩
    refine .inr ⟨strip text,?_,escapes_bind.mpr (.inl (escapes_timestamp.mpr outside))⟩
    simp [requireNonEmptyString,found,present]

def optionalTimestamp (lib : Libraries) (payload : Fields) (fieldName : String) : Except Raised (Option DateTime) := do
  parseOptionalTimestamp lib (← optionalNonEmptyString payload fieldName)

theorem escapes_optional_timestamp :
    Escapes (optionalTimestamp lib payload fieldName) ↔ TimestampOverflows lib payload fieldName := by
  unfold optionalTimestamp
  rw [escapes_bind]
  constructor
  · rintro (escapes | ⟨value,done,escapes⟩)
    · exact absurd escapes optional_checks
    · cases value with
      | none => exact absurd escapes escapes_ok
      | some text =>
          unfold optionalNonEmptyString at done
          split at done
          · cases done
          · rename_i given found
            split at done
            · cases done
            · rename_i present
              cases done
              exact ⟨given,found,present,escapes_timestamp.mp escapes⟩
          · cases done
  · rintro ⟨text,found,present,outside⟩
    refine .inr ⟨some (strip text),?_,escapes_timestamp.mpr outside⟩
    simp [optionalNonEmptyString,found,present]

theorem counted_checks : ¬ Escapes (some <$> requireNonNegativeInt payload fieldName) := by
  intro escapes
  cases outcome : requireNonNegativeInt payload fieldName with
  | ok value => rw [outcome] at escapes; exact escapes_ok escapes
  | error raised =>
      rw [outcome] at escapes
      obtain ⟨other,failed,never⟩ := escapes
      cases failed
      exact requiredInt_checks ⟨raised,outcome,never⟩

theorem session_checks (requireTotalAssets requireCompletionCounts : Bool) :
    ¬ Escapes (parseTransferSessionRequest payload requireTotalAssets requireCompletionCounts) := by
  unfold parseTransferSessionRequest
  refine checks_after required_checks fun schema => ?_
  refine checks_after required_checks fun sessionId => ?_
  refine checks_after required_checks fun deviceUuid => ?_
  refine checks_after required_checks fun trustProof => ?_
  cases requireTotalAssets with
  | true =>
      refine checks_after counted_checks fun totalAssets => ?_
      cases requireCompletionCounts with
      | true => exact checks_after counted_checks fun transferredCount => checks_after counted_checks fun _ => escapes_ok
      | false => exact escapes_ok
  | false =>
      refine checks_after escapes_ok fun totalAssets => ?_
      cases requireCompletionCounts with
      | true => exact checks_after counted_checks fun transferredCount => checks_after counted_checks fun _ => escapes_ok
      | false => exact escapes_ok

def MetadataOverflows (lib : Libraries) (payload : Fields) : Prop :=
  Parses (requireNonEmptyString payload "schema") ∧ Parses (requireNonEmptyString payload "session_id") ∧
  Parses (requireNonEmptyString payload "device_uuid") ∧ Parses (requireNonEmptyString payload "trust_proof") ∧
  Parses (requireNonEmptyString payload "asset_id") ∧ Parses (optionalNonEmptyString payload "asset_version") ∧
  Parses (optionalSha1Hex payload "sha1") ∧ Parses (optionalNonNegativeInt payload "file_size") ∧
  Parses (requireNonEmptyString payload "filename") ∧ Parses (optionalNonEmptyString payload "media_type") ∧
  (TimestampOverflows lib payload "created_at" ∨
    (Parses (optionalTimestamp lib payload "created_at") ∧ TimestampOverflows lib payload "updated_at"))

theorem escapes_metadata : Escapes (parseTransferAssetMetadata lib payload) ↔ MetadataOverflows lib payload := by
  unfold parseTransferAssetMetadata MetadataOverflows
  refine escapes_after required_checks fun schema => ?_
  refine escapes_after required_checks fun sessionId => ?_
  refine escapes_after required_checks fun deviceUuid => ?_
  refine escapes_after required_checks fun trustProof => ?_
  refine escapes_after required_checks fun assetId => ?_
  refine escapes_after optional_checks fun assetVersion => ?_
  refine escapes_after optionalSha1_checks fun contentSha1 => ?_
  refine escapes_after optionalInt_checks fun fileSizeBytes => ?_
  refine escapes_after required_checks fun filename => ?_
  refine escapes_after optional_checks fun mediaType => ?_
  -- The two timestamps, each read from its field first.
  rw [← bind_assoc,escapes_bind]
  have created := @escapes_optional_timestamp lib payload "created_at"
  unfold optionalTimestamp at created ⊢
  have updated : ∀ made : Option DateTime, Escapes (do
      let read ← optionalNonEmptyString payload "updated_at"
      let updatedAt ← parseOptionalTimestamp lib read
      return (⟨schema,sessionId,deviceUuid,trustProof,assetId,assetVersion,contentSha1,fileSizeBytes,filename,mediaType,
        made,updatedAt⟩ : MobileTransferAssetMetadata)) ↔ TimestampOverflows lib payload "updated_at" := by
    intro made
    rw [← bind_assoc,escapes_bind]
    have read := @escapes_optional_timestamp lib payload "updated_at"
    unfold optionalTimestamp at read
    rw [read]
    constructor
    · rintro (overflows | ⟨value,-,escapes⟩)
      · exact overflows
      · exact absurd escapes escapes_ok
    · exact .inl
  rw [created]
  constructor
  · rintro (overflows | ⟨made,done,escapes⟩)
    · exact .inl overflows
    · exact .inr ⟨⟨made,done⟩,(updated made).mp escapes⟩
  · rintro (overflows | ⟨⟨made,done⟩,overflows⟩)
    · exact .inl overflows
    · exact .inr ⟨made,done,(updated made).mpr overflows⟩

def CandidateOverflows (lib : Libraries) : Json → Prop
  | .object asset => Parses (requireNonEmptyString asset "asset_id") ∧ Parses (requireSha1Hex asset "sha1") ∧
      Parses (requireNonNegativeInt asset "file_size") ∧ TimestampOverflows lib asset "created_at"
  | _ => False

theorem escapes_candidate {item : Json} : Escapes (parseAssetSignature lib item) ↔ CandidateOverflows lib item := by
  cases item with
  | object asset =>
      unfold parseAssetSignature CandidateOverflows
      refine escapes_after required_checks fun assetId => ?_
      refine escapes_after requiredSha1_checks fun contentSha1 => ?_
      refine escapes_after requiredInt_checks fun fileSizeBytes => ?_
      rw [escapes_bind,escapes_required_timestamp]
      constructor
      · rintro (overflows | ⟨value,-,escapes⟩)
        · exact overflows
        · exact absurd escapes escapes_ok
      · exact .inl
  | _ => exact iff_of_false escapes_value id

def ExistenceOverflows (lib : Libraries) (payload : Fields) : Prop :=
  Parses (parseTransferSessionRequest payload false false) ∧ ∃ before item after,
    Payload.get payload "assets" = .array (before ++ item :: after) ∧
    (∀ earlier ∈ before, Parses (parseAssetSignature lib earlier)) ∧ CandidateOverflows lib item

theorem escapes_existence :
    Escapes (parseTransferAssetExistenceRequest lib payload) ↔ ExistenceOverflows lib payload := by
  unfold parseTransferAssetExistenceRequest ExistenceOverflows
  refine escapes_after (session_checks false false) fun session => ?_
  cases listed : Payload.get payload "assets" with
  | array items =>
      dsimp only
      rw [escapes_bind,escapes_mapM]
      constructor
      · rintro (⟨before,item,after,rfl,parsed,escapes⟩ | ⟨values,-,escapes⟩)
        · exact ⟨before,item,after,rfl,parsed,escapes_candidate.mp escapes⟩
        · exact absurd escapes escapes_ok
      · rintro ⟨before,item,after,equal,parsed,overflows⟩
        cases equal
        exact .inl ⟨before,item,after,rfl,parsed,escapes_candidate.mpr overflows⟩
  | _ =>
      refine iff_of_false escapes_value ?_
      rintro ⟨before,item,after,equal,-⟩
      cases equal

def Ascii (text : String) : Prop := ∀ c ∈ text.toList, c.toNat < 128

def Compared (store : Store) (statuses : List SessionStatus) (sessionId deviceUuid : String)
    (context : MobileTransferContext) : Prop :=
  getMobileTransferContext store sessionId deviceUuid = some context ∧ context.sessionStatus ∈ statuses

theorem proof_ascii {trustKeyB64 purpose schema sessionId deviceUuid trustProof : String} (ascii : Ascii trustProof) :
    isValidTrustProof lib trustKeyB64 purpose schema sessionId deviceUuid trustProof =
      .ok (deriveTrustProofB64 lib trustKeyB64 purpose schema sessionId deviceUuid = trustProof) := by
  unfold isValidTrustProof
  rw [if_pos (by simpa [Ascii,List.all_eq_true] using ascii)]

theorem proof_raises {trustKeyB64 purpose schema sessionId deviceUuid trustProof : String} (wide : ¬ Ascii trustProof) :
    isValidTrustProof lib trustKeyB64 purpose schema sessionId deviceUuid trustProof = .error .typeError := by
  unfold isValidTrustProof
  rw [if_neg (by simpa [Ascii,List.all_eq_true] using wide)]

-- What is left of a request after its checks, on the ways it can throw.
theorem authorise_throws {α : Type} {purpose schema sessionId deviceUuid trustProof : String}
    {statuses : List SessionStatus} {refused : α} {rest : MobileTransferContext → Except Raised α}
    {later : MobileTransferContext → Prop} (rests : ∀ context, Throws (rest context) ↔ later context) :
    Throws (match authoriseTransfer lib store purpose statuses schema sessionId deviceUuid trustProof with
      | .error raised => .error raised
      | .ok none => .ok refused
      | .ok (some context) => rest context) ↔
    ∃ context, Compared store statuses sessionId deviceUuid context ∧ (¬ Ascii trustProof ∨
      (deriveTrustProofB64 lib context.trustKeyB64 purpose schema sessionId deviceUuid = trustProof ∧ later context)) := by
  unfold authoriseTransfer Compared
  cases located : getMobileTransferContext store sessionId deviceUuid with
  | none => simp [Throws]
  | some context =>
      dsimp only
      by_cases allowed : context.sessionStatus ∈ statuses
      · rw [if_neg (not_not.mpr allowed)]
        by_cases ascii : Ascii trustProof
        · rw [proof_ascii ascii]
          by_cases valid : deriveTrustProofB64 lib context.trustKeyB64 purpose schema sessionId deviceUuid = trustProof
          · simp only [valid,decide_true,if_true]
            rw [rests]
            constructor
            · exact fun throws => ⟨context,⟨rfl,allowed⟩,.inr ⟨valid,throws⟩⟩
            · rintro ⟨other,⟨same,-⟩,wide | ⟨-,throws⟩⟩
              · exact absurd ascii wide
              · cases same
                exact throws
          · simp only [valid,decide_false,Bool.false_eq_true,if_false]
            refine iff_of_false (by rintro ⟨raised,failed⟩; cases failed) ?_
            rintro ⟨other,⟨same,-⟩,wide | ⟨matches_,-⟩⟩
            · exact wide ascii
            · cases same
              exact valid matches_
        · rw [proof_raises ascii]
          exact iff_of_true ⟨.typeError,rfl⟩ ⟨context,⟨rfl,allowed⟩,.inl ascii⟩
      · rw [if_pos allowed]
        refine iff_of_false (by rintro ⟨raised,failed⟩; cases failed) ?_
        rintro ⟨other,⟨same,there⟩,-⟩
        cases same
        exact allowed there

-- A well-formed session request throws where its proof is compared though it is not
-- ASCII, or where it is granted and what is done then throws.
def SessionThrows {Request : Type} (session : Request → MobileTransferSessionRequest) (lib : Libraries) (store : Store)
    (parsed : Except Raised Request) (purpose : String) (statuses : List SessionStatus) (later : Request → Prop) : Prop :=
  ∃ request, parsed = .ok request ∧ (session request).schema = mobileTransferSchema ∧
    ∃ context, Compared store statuses (session request).sessionId (session request).deviceUuid context ∧
      (¬ Ascii (session request).trustProof ∨
        (deriveTrustProofB64 lib context.trustKeyB64 purpose (session request).schema (session request).sessionId
          (session request).deviceUuid = (session request).trustProof ∧ later request))

theorem session_throws {Request : Type} {session : Request → MobileTransferSessionRequest} {parsed : Except Raised Request}
    {purpose : String} {statuses : List SessionStatus} {rest : Request → MobileTransferContext → Except Raised Response}
    {later : Request → Prop} (rests : ∀ request context, Throws (rest request context) ↔ later request) :
    Throws (match checkSession session lib store parsed purpose statuses with
      | .error result => result
      | .ok (request,context) => rest request context) ↔
    Escapes parsed ∨ SessionThrows session lib store parsed purpose statuses later := by
  unfold checkSession SessionThrows
  cases parsed with
  | error raised =>
      have unparsed : ¬ ∃ request, (.error raised : Except Raised Request) = .ok request ∧
          (session request).schema = mobileTransferSchema ∧ ∃ context,
            Compared store statuses (session request).sessionId (session request).deviceUuid context ∧
            (¬ Ascii (session request).trustProof ∨
              (deriveTrustProofB64 lib context.trustKeyB64 purpose (session request).schema (session request).sessionId
                (session request).deviceUuid = (session request).trustProof ∧ later request)) := by
        rintro ⟨request,equal,-⟩
        cases equal
      rw [or_iff_left unparsed]
      cases raised with
      | valueError message => exact iff_of_false (by rintro ⟨raised,failed⟩; cases failed) escapes_value
      | _ => exact iff_of_true ⟨_,rfl⟩ ⟨_,rfl,by simp⟩
  | ok request =>
      rw [or_iff_right escapes_ok]
      dsimp only
      by_cases schema : (session request).schema = mobileTransferSchema
      · rw [if_neg (not_not.mpr schema)]
        have checked := @authorise_throws lib store Response purpose (session request).schema (session request).sessionId
          (session request).deviceUuid (session request).trustProof statuses sessionRejected (rest request)
          (fun _ => later request) (rests request)
        have same : Throws (match (match authoriseTransfer lib store purpose statuses (session request).schema
              (session request).sessionId (session request).deviceUuid (session request).trustProof with
            | .error raised => .error (.error raised)
            | .ok none => .error (.ok sessionRejected)
            | .ok (some context) => .ok (request,context) :
              Except (Except Raised Response) (Request × MobileTransferContext)) with
          | .error result => result
          | .ok (request,context) => rest request context) ↔ Throws (match authoriseTransfer lib store purpose statuses
              (session request).schema (session request).sessionId (session request).deviceUuid
              (session request).trustProof with
            | .error raised => .error raised
            | .ok none => .ok sessionRejected
            | .ok (some context) => rest request context) := by
          rcases authoriseTransfer lib store purpose statuses (session request).schema (session request).sessionId
            (session request).deviceUuid (session request).trustProof with raised | granted
          · exact Iff.rfl
          · cases granted <;> exact Iff.rfl
        refine (same.trans checked).trans ⟨?_,?_⟩
        · exact fun ⟨context,compared,throws⟩ => ⟨request,rfl,schema,context,compared,throws⟩
        · rintro ⟨other,equal,-,context,compared,throws⟩
          cases equal
          exact ⟨context,compared,throws⟩
      · rw [if_pos schema]
        refine iff_of_false (by rintro ⟨raised,failed⟩; cases failed) ?_
        rintro ⟨other,equal,there,-⟩
        cases equal
        exact schema there

theorem answered_returns {α : Type} {answer : α} : ¬ Throws (.ok answer : Except Raised α) := by
  rintro ⟨raised,failed⟩
  cases failed

theorem accept_throws {request : MobileTransferSessionRequest} {context : MobileTransferContext} {now : DateTime} :
    Throws (acceptStart request context now d).1 ↔ bindsAsInteger (request.totalAssets.getD 0) = false := by
  unfold acceptStart
  rw [resolve_started]
  dsimp only
  cases binds : bindsAsInteger (request.totalAssets.getD 0) with
  | false => exact iff_of_true ⟨_,rfl⟩ rfl
  | true => exact iff_of_false answered_returns (by simp)

theorem answer_throws {request : MobileTransferAssetExistenceRequest} :
    Throws (answerExistence request d) ↔ ∃ asset ∈ request.assets, bindsAsInteger asset.fileSizeBytes = false := by
  unfold answerExistence
  split
  · rename_i some_
    refine iff_of_true ⟨_,rfl⟩ ?_
    simpa using some_
  · rename_i none_
    refine iff_of_false answered_returns ?_
    simpa using none_

def ReasonMalformed (payload : Fields) : Prop :=
  Payload.get payload "interruption_reason" ≠ .null ∧
    ∀ text, Payload.get payload "interruption_reason" ≠ .string text

theorem completion_resolves (request : MobileTransferSessionRequest) (reason : Option String)
    (folderTransferState : Option FolderTransferState) : ∃ next, resolveNextBackupState folderTransferState
      (completionOf request reason).transitionEvent .transferInProgress = some next := by
  unfold completionOf
  dsimp only
  split
  · exact ⟨.transferStopped,resolve_ended _ rfl (by decide)⟩
  · split
    · exact ⟨.transferCompleted,resolve_ended _ rfl (by decide)⟩
    · exact ⟨.transferFailed,resolve_ended _ rfl (by decide)⟩

theorem finish_read {request : MobileTransferSessionRequest} {context : MobileTransferContext} {now : DateTime}
    {reason : Option String} (read : optionalNonEmptyString payload "interruption_reason" = .ok reason) :
    Throws (finishTransfer payload request context now d).1 ↔
      bindsAsInteger (request.transferredCount.getD 0) = false ∨ bindsAsInteger (request.failedCount.getD 0) = false := by
  obtain ⟨next,resolved⟩ := completion_resolves request reason context.folderTransferState
  unfold finishTransfer
  rw [read]
  dsimp only
  rw [resolved]
  dsimp only
  cases bindsAsInteger (request.transferredCount.getD 0) <;> cases bindsAsInteger (request.failedCount.getD 0)
  · exact iff_of_true ⟨_,rfl⟩ (.inl rfl)
  · exact iff_of_true ⟨_,rfl⟩ (.inl rfl)
  · exact iff_of_true ⟨_,rfl⟩ (.inr rfl)
  · exact iff_of_false answered_returns (by simp)

theorem finish_throws {request : MobileTransferSessionRequest} {context : MobileTransferContext} {now : DateTime} :
    Throws (finishTransfer payload request context now d).1 ↔ ReasonMalformed payload ∨
      bindsAsInteger (request.transferredCount.getD 0) = false ∨ bindsAsInteger (request.failedCount.getD 0) = false := by
  by_cases malformed : ReasonMalformed payload
  · refine iff_of_true ?_ (.inl malformed)
    have unread : ∃ raised, optionalNonEmptyString payload "interruption_reason" = .error raised := by
      unfold optionalNonEmptyString
      split
      · rename_i absent; exact absurd absent malformed.1
      · rename_i text given; exact absurd given (malformed.2 text)
      · exact ⟨_,rfl⟩
    obtain ⟨raised,unread⟩ := unread
    refine ⟨raised,?_⟩
    unfold finishTransfer
    rw [unread]
  · rw [or_iff_right malformed]
    have read : ∃ reason, optionalNonEmptyString payload "interruption_reason" = .ok reason := by
      unfold optionalNonEmptyString
      split
      · exact ⟨none,rfl⟩
      · exact ⟨_,rfl⟩
      · rename_i absent text
        exact absurd ⟨absent,text⟩ malformed
    obtain ⟨reason,read⟩ := read
    exact finish_read read

-- An upload throws after its checks only where its whole signature is declared and the
-- size is no 64-bit integer: no failing file operation leaves it without an answer.
def SignatureUnbindable (metadata : MobileTransferAssetMetadata) : Prop :=
  metadata.contentSha1.isSome ∧ metadata.createdAt.isSome ∧ ∃ size ∈ metadata.fileSizeBytes, bindsAsInteger size = false

theorem fail_returns {context : MobileTransferContext} {now : DateTime} {publish : Bool} {response : Response} :
    ¬ Throws (failTransfer context now publish response d).1 := by
  have resolved : resolveNextBackupState context.folderTransferState .transferFailed .transferInProgress =
      some .transferFailed := resolve_ended _ rfl (by decide)
  unfold failTransfer markTransferFailed
  rw [resolved]
  exact answered_returns

theorem store_returns {call : UploadCall} {metadata : MobileTransferAssetMetadata} {context : MobileTransferContext} :
    ¬ Throws (storeUpload lib call metadata context d).1 := by
  unfold storeUpload
  split
  · exact fail_returns
  · exact answered_returns

theorem signature_throws {metadata : MobileTransferAssetMetadata} :
    Throws (existingSignatureAsset d metadata) ↔ SignatureUnbindable metadata := by
  unfold existingSignatureAsset SignatureUnbindable
  split
  · rename_i sha size created sha_ size_ created_
    split
    · rename_i binds
      refine iff_of_false answered_returns ?_
      rintro ⟨-,-,other,member,unbound⟩
      rw [size_] at member
      cases member
      rw [binds] at unbound
      cases unbound
    · rename_i unbound
      refine iff_of_true ⟨_,rfl⟩ ⟨by simp [sha_],by simp [created_],size,size_,by simpa using unbound⟩
  · rename_i undeclared
    refine iff_of_false answered_returns ?_
    rintro ⟨sha,created,size,member,-⟩
    obtain ⟨text,sha⟩ := Option.isSome_iff_exists.mp sha
    obtain ⟨instant,created⟩ := Option.isSome_iff_exists.mp created
    exact undeclared text size instant sha member created

theorem upload_throws {call : UploadCall} {metadata : MobileTransferAssetMetadata} {context : MobileTransferContext} :
    Throws (uploadAuthorised lib call metadata context d).1 ↔ SignatureUnbindable metadata := by
  unfold uploadAuthorised
  have signature := @signature_throws d metadata
  split
  · rename_i raised failed
    exact iff_of_true ⟨raised,rfl⟩ (signature.mp ⟨raised,failed⟩)
  · rename_i row found
    refine iff_of_false answered_returns fun unbindable => ?_
    obtain ⟨raised,failed⟩ := signature.mpr unbindable
    rw [found] at failed
    cases failed
  · rename_i found
    refine iff_of_false ?_ fun unbindable => ?_
    · split
      · exact answered_returns
      · exact store_returns
    · obtain ⟨raised,failed⟩ := signature.mpr unbindable
      rw [found] at failed
      cases failed

def StartThrows (lib : Libraries) (store : Store) (payload : Fields) : Prop :=
  SessionThrows id lib store (parseTransferSessionRequest payload true false) startProofPurpose [.paired,.transferring]
    fun request => bindsAsInteger (request.totalAssets.getD 0) = false

def ExistenceThrows (lib : Libraries) (store : Store) (payload : Fields) : Prop :=
  ExistenceOverflows lib payload ∨
    SessionThrows MobileTransferAssetExistenceRequest.session lib store (parseTransferAssetExistenceRequest lib payload)
      existenceProofPurpose [.transferring] fun request => ∃ asset ∈ request.assets, bindsAsInteger asset.fileSizeBytes = false

def CompleteThrows (lib : Libraries) (store : Store) (payload : Fields) : Prop :=
  SessionThrows id lib store (parseTransferSessionRequest payload false true) completeProofPurpose [.transferring]
    fun request => ReasonMalformed payload ∨ bindsAsInteger (request.transferredCount.getD 0) = false ∨
      bindsAsInteger (request.failedCount.getD 0) = false

def UploadThrows (lib : Libraries) (store : Store) (call : UploadCall) : Prop :=
  (call.bodyStream.isSome ∨ call.tempFilePath.isSome) ∧ (MetadataOverflows lib call.metadataPayload ∨
    ∃ metadata, parseTransferAssetMetadata lib call.metadataPayload = .ok metadata ∧ refuseUpload call metadata = none ∧
      ∃ context, Compared store [.transferring] metadata.sessionId metadata.deviceUuid context ∧
        (¬ Ascii metadata.trustProof ∨
          (deriveTrustProofB64 lib context.trustKeyB64 assetProofPurpose metadata.schema metadata.sessionId
            metadata.deviceUuid = metadata.trustProof ∧ SignatureUnbindable metadata)))

def ExchangeThrows (store : Store) (payload : Fields) : Prop :=
  ∃ request, parseCapabilityExchangeRequest payload = .ok request ∧ request.schema = mobileCapabilityExchangeSchema ∧
    (getMobileTransferContext store request.sessionId request.deviceUuid).isSome ∧ ¬ Ascii request.trustProof

theorem start_throws {now : DateTime} : Throws (handleStartRequest lib payload now d).1 ↔ StartThrows lib d.store payload := by
  have checked := @session_throws lib d.store _ id (parseTransferSessionRequest payload true false) startProofPurpose
    [.paired,.transferring] (fun request context => (acceptStart request context now d).1) _ fun _ _ => accept_throws
  rw [or_iff_right (session_checks true false)] at checked
  refine Iff.trans (Eq.to_iff (congrArg Throws ?_)) checked
  unfold handleStartRequest checkStart
  rcases checkSession id lib d.store (parseTransferSessionRequest payload true false) startProofPurpose
    [.paired,.transferring] with result | ⟨request,context⟩ <;> rfl

theorem existence_throws : Throws (handleAssetExistenceRequest lib payload d) ↔ ExistenceThrows lib d.store payload := by
  have checked := @session_throws lib d.store _ MobileTransferAssetExistenceRequest.session
    (parseTransferAssetExistenceRequest lib payload) existenceProofPurpose [.transferring]
    (fun request _ => answerExistence request d) _ fun _ _ => answer_throws
  rw [escapes_existence] at checked
  refine Iff.trans (Eq.to_iff (congrArg Throws ?_)) checked
  unfold handleAssetExistenceRequest checkExistence
  rcases checkSession MobileTransferAssetExistenceRequest.session lib d.store
    (parseTransferAssetExistenceRequest lib payload) existenceProofPurpose [.transferring] with
    result | ⟨request,context⟩ <;> rfl

theorem complete_throws {now : DateTime} :
    Throws (handleCompleteRequest lib payload now d).1 ↔ CompleteThrows lib d.store payload := by
  have checked := @session_throws lib d.store _ id (parseTransferSessionRequest payload false true) completeProofPurpose
    [.transferring] (fun request context => (finishTransfer payload request context now d).1) _ fun _ _ => finish_throws
  rw [or_iff_right (session_checks false true)] at checked
  refine Iff.trans (Eq.to_iff (congrArg Throws ?_)) checked
  unfold handleCompleteRequest checkComplete
  rcases checkSession id lib d.store (parseTransferSessionRequest payload false true) completeProofPurpose
    [.transferring] with result | ⟨request,context⟩ <;> rfl

theorem handle_upload_throws {call : UploadCall} :
    Throws (handleAssetUpload lib call d).1 ↔ UploadThrows lib d.store call := by
  have parsing := @escapes_metadata lib call.metadataPayload
  unfold UploadThrows
  rw [← parsing]
  by_cases given : call.bodyStream.isSome ∨ call.tempFilePath.isSome
  · have handed : (call.bodyStream.isNone && call.tempFilePath.isNone) = false := by
      rcases given with streamed | staged
      · simp [Option.isNone_eq_false_iff.mpr streamed]
      · simp [Option.isNone_eq_false_iff.mpr staged]
    unfold handleAssetUpload checkUpload
    rw [if_neg (by simp [handed]),and_iff_right given]
    cases parsed : parseTransferAssetMetadata lib call.metadataPayload with
    | error raised =>
        have unparsed : ∀ metadata, (.error raised : Except Raised MobileTransferAssetMetadata) ≠ .ok metadata := by simp
        cases raised with
        | valueError message =>
            refine iff_of_false answered_returns ?_
            rintro (escapes | ⟨metadata,equal,-⟩)
            · exact escapes_value escapes
            · exact unparsed metadata equal
        | _ => exact iff_of_true ⟨_,rfl⟩ (.inl ⟨_,rfl,by simp⟩)
    | ok metadata =>
        rw [or_iff_right escapes_ok]
        dsimp only
        cases refused : refuseUpload call metadata with
        | some refusal =>
            refine iff_of_false answered_returns ?_
            rintro ⟨other,equal,unrefused,-⟩
            cases equal
            rw [refused] at unrefused
            cases unrefused
        | none =>
            have checked := @authorise_throws lib d.store Response assetProofPurpose metadata.schema metadata.sessionId
              metadata.deviceUuid metadata.trustProof [.transferring] sessionRejected
              (fun context => (uploadAuthorised lib call metadata context d).1) _ fun _ => upload_throws
            refine Iff.trans (Eq.to_iff (congrArg Throws ?_)) (checked.trans
              ⟨fun ⟨context,throws⟩ => ⟨metadata,rfl,refused,context,throws⟩,?_⟩)
            · dsimp only
              rcases authoriseTransfer lib d.store assetProofPurpose [.transferring] metadata.schema metadata.sessionId
                metadata.deviceUuid metadata.trustProof with raised | granted
              · rfl
              · cases granted <;> rfl
            · rintro ⟨other,equal,-,context,throws⟩
              cases equal
              exact ⟨context,throws⟩
  · have missing : (call.bodyStream.isNone && call.tempFilePath.isNone) = true := by
      rw [not_or] at given
      simpa using given
    unfold handleAssetUpload checkUpload
    rw [if_pos missing]
    exact iff_of_false answered_returns fun throws => given throws.1

-- Locating the session and comparing its proof, whatever is answered in the end.
theorem proof_throws {α : Type} {located : Option MobileTransferContext} {absent rejected accepted : α}
    {purpose schema sessionId deviceUuid trustProof : String} :
    Throws (match located with
      | none => .ok absent
      | some context =>
        match isValidTrustProof lib context.trustKeyB64 purpose schema sessionId deviceUuid trustProof with
        | .error raised => .error raised
        | .ok false => .ok rejected
        | .ok true => .ok accepted) ↔ located.isSome ∧ ¬ Ascii trustProof := by
  cases located with
  | none => exact iff_of_false answered_returns fun ⟨present,_⟩ => Bool.false_ne_true present
  | some context =>
      dsimp only
      by_cases ascii : Ascii trustProof
      · rw [proof_ascii ascii]
        refine iff_of_false ?_ fun ⟨_,wide⟩ => wide ascii
        split
        · rename_i failed; cases failed
        · exact answered_returns
        · exact answered_returns
      · rw [proof_raises ascii]
        exact iff_of_true ⟨.typeError,rfl⟩ ⟨rfl,ascii⟩

theorem exchange_throws {flags : List String} :
    Throws (handleExchangeRequest lib flags payload store) ↔ ExchangeThrows store payload := by
  unfold handleExchangeRequest ExchangeThrows
  cases parsed : parseCapabilityExchangeRequest payload with
  | error raised =>
      obtain ⟨message,rfl⟩ := parse_raises parsed
      refine iff_of_false answered_returns ?_
      rintro ⟨request,equal,-⟩
      cases equal
  | ok request =>
      dsimp only
      by_cases schema : request.schema = mobileCapabilityExchangeSchema
      · rw [if_neg (not_not.mpr schema)]
        refine proof_throws.trans ⟨fun throws => ⟨request,rfl,schema,throws⟩,?_⟩
        rintro ⟨other,equal,-,throws⟩
        cases equal
        exact throws
      · rw [if_pos schema]
        refine iff_of_false answered_returns ?_
        rintro ⟨other,equal,there,-⟩
        cases equal
        exact schema there

def threw {α : Type} : Except Raised α → Bool
  | .error _ => true
  | .ok _ => false

theorem threw_throws {α : Type} {result : Except Raised α} (seen : threw result = true) : Throws result := by
  cases result with
  | error raised => exact ⟨raised,rfl⟩
  | ok value => cases seen

def wideProof (schema : String) : Fields :=
  [("schema",.string schema),("session_id",.string "session-1"),("device_uuid",.string "phone-1"),
    ("trust_proof",.string "é"),("total_assets",.int 1),("assets",.array []),("transferred_count",.int 0),
    ("failed_count",.int 0),("asset_id",.string "asset-1"),("filename",.string "IMG_0001.JPG")]

def wideCall : UploadCall :=
  {sampleCall "asset-1" "staged.part" "" with metadataPayload:=wideProof mobileTransferSchema}

-- The other handlers throw on it just the same.
example : threw (handleAssetUpload sampleLibraries wideCall sampleDesktop).1 &&
    threw (handleAssetExistenceRequest sampleLibraries (wideProof mobileTransferSchema) sampleDesktop) &&
    threw (handleCompleteRequest sampleLibraries (wideProof mobileTransferSchema) 0 sampleDesktop).1 &&
    threw (handleExchangeRequest sampleLibraries [] (wideProof mobileCapabilityExchangeSchema) sampleStore) = true := by
  decide +kernel

end ImageSearch.ThrowingHandlers
