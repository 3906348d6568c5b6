import ImageSearch.AssetUploadStream
import ImageSearch.Tables
import ImageSearch.Transitions
import Mathlib.Logic.Function.Basic

namespace ImageSearch.StagedUploads
open Payload Tables Transitions AssetUploadStream

abbrev TempFiles := String → Option Bytes

-- tempfile's handle is buffered: `buffered` is what write took and the file does not have yet.
structure TempFileHandle where
  name : String
  buffered : Bytes

structure PendingUpload where
  requestId : String
  metadataPayload : Fields
  tempFileHandle : TempFileHandle
  contentSha1 : Bytes
  encryptionTrustKeyB64 : Option String
  contentLength : Nat

def PendingUpload.tempFilePath (pending : PendingUpload) : String := pending.tempFileHandle.name

-- What the operating system answers the file operations of one call; `none` is success.
-- A write that fails may have taken a part of the chunk. A failing close of a handle is
-- told by the name of its file.
structure FileFaults where
  create : Option OSError
  write : Option (OSError × Nat)
  flush : Option OSError
  close : String → Option OSError

structure TransferAssetUploadPayload where
  metadataPayload : Fields
  contentLength : Nat
  tempFilePath : String
  contentSha1 : String
  encryptionTrustKeyB64 : Option String

def PendingUpload.appendChunk (pending : PendingUpload) (chunk : Bytes) :
    Option (OSError × Nat) → Option OSError × PendingUpload
  | some (error,taken) => (some error,{pending with
      tempFileHandle:=⟨pending.tempFileHandle.name,pending.tempFileHandle.buffered ++ chunk.take taken⟩})
  | none => (none,{pending with
      tempFileHandle:=⟨pending.tempFileHandle.name,pending.tempFileHandle.buffered ++ chunk⟩
      contentSha1:=pending.contentSha1 ++ chunk
      contentLength:=pending.contentLength + chunk.length})

def flushHandle (files : TempFiles) (handle : TempFileHandle) : TempFiles :=
  Function.update files handle.name ((files handle.name).map fun written => written ++ handle.buffered)

def PendingUpload.toPayload (lib : Libraries) (pending : PendingUpload) (faults : FileFaults) (files : TempFiles) :
    Except OSError TransferAssetUploadPayload × TempFiles :=
  match faults.flush with
  | some error => (.error error,files)
  | none =>
    let flushed := flushHandle files pending.tempFileHandle
    match faults.close pending.tempFilePath with
    | some error => (.error error,flushed)
    | none => (.ok ⟨pending.metadataPayload,pending.contentLength,pending.tempFilePath,lib.sha1 pending.contentSha1,
        pending.encryptionTrustKeyB64⟩,flushed)

-- The file is unlinked whether or not the handle closes.
def PendingUpload.close (pending : PendingUpload) (faults : FileFaults) (files : TempFiles) : Option OSError × TempFiles :=
  (faults.close pending.tempFilePath,Function.update files pending.tempFilePath none)

-- The stream object, and the staged files it has been given. A dictionary keeps the
-- order its keys were inserted in, as the table's rows do.
structure Staging where
  pendingByRequestId : Table PendingUpload.requestId
  lastActive : Option String
  files : TempFiles

def Staging.new : Staging := ⟨Table.empty,none,fun _ => none⟩

def Staging.pending? (staging : Staging) (requestId : String) : Option PendingUpload :=
  staging.pendingByRequestId.find? requestId

def Staging.hasPending (staging : Staging) : Bool := !staging.pendingByRequestId.rows.isEmpty

def Staging.activeRequestId (staging : Staging) : Option String :=
  match staging.lastActive.filter fun requestId => (staging.pending? requestId).isSome with
  | some requestId => some requestId
  | none => match staging.pendingByRequestId.rows with
    | [pending] => some pending.requestId
    | _ => none

def Staging.resolve (staging : Staging) (requestId : Option String) : Option PendingUpload :=
  (requestId.or staging.activeRequestId).bind staging.pending?

def Staging.encryptionTrustKey (staging : Staging) (requestId : Option String) : Option String :=
  (staging.resolve requestId).bind PendingUpload.encryptionTrustKeyB64

def Staging.metadataPayload (staging : Staging) (requestId : Option String) : Option Fields :=
  (staging.resolve requestId).map PendingUpload.metadataPayload

def Staging.pop (staging : Staging) (requestId : String) : Staging :=
  {staging with pendingByRequestId:=staging.pendingByRequestId.delete fun pending => pending.requestId = requestId}

def Staging.put (staging : Staging) (pending : PendingUpload) : Staging :=
  {staging with
    pendingByRequestId:=staging.pendingByRequestId.upsert pending (fun old => {pending with requestId:=old.requestId})
      fun _ => rfl
    lastActive:=some pending.requestId}

-- clear closes one after the other until one of them raises.
def closeAll (faults : FileFaults) : List PendingUpload → TempFiles → Option OSError × TempFiles
  | [],files => (none,files)
  | pending :: rest,files =>
    match pending.close faults files with
    | (some error,closed) => (some error,closed)
    | (none,closed) => closeAll faults rest closed

def Staging.clear (staging : Staging) (faults : FileFaults) : Option OSError × Staging :=
  let closed := closeAll faults staging.pendingByRequestId.rows staging.files
  (closed.1,⟨Table.empty,none,closed.2⟩)

def newUpload (requestId : String) (metadataPayload : Fields) (encryptionTrustKeyB64 : Option String) (name : String) :
    PendingUpload :=
  ⟨requestId,metadataPayload,⟨name,[]⟩,[],encryptionTrustKeyB64,0⟩

-- The replacement of an upload of the same id, once the new file is there.
def Staging.register (staging : Staging) (fresh : PendingUpload) (faults : FileFaults) : Option OSError × Staging :=
  match staging.pending? fresh.requestId with
  | none => (none,staging.put fresh)
  | some existing =>
    let popped := staging.pop fresh.requestId
    match existing.close faults staging.files with
    | (some error,closed) => (some error,{popped with files:=closed})
    | (none,closed) => (none,{popped with files:=closed}.put fresh)

-- `name` is the one NamedTemporaryFile came up with.
def Staging.start (staging : Staging) (requestId : String) (metadataPayload : Fields)
    (encryptionTrustKeyB64 : Option String) (exclusive : Bool) (name : String) (faults : FileFaults) :
    Option OSError × Staging :=
  match faults.create with
  | some error => (some error,staging)
  | none =>
    let created := {staging with files:=Function.update staging.files name (some [])}
    let fresh := newUpload requestId metadataPayload encryptionTrustKeyB64 name
    if exclusive then
      match created.clear faults with
      | (some error,cleared) => (some error,cleared)
      | (none,cleared) => cleared.register fresh faults
    else created.register fresh faults

def unmatchedChunk (hasPending : Bool) : String :=
  if hasPending then
    "Desktop rejected transfer asset stream chunk because request ids do not match the active binary stream."
  else "Desktop ignored transfer asset stream chunk because metadata was not received first."

def unmatchedCompletion (hasPending : Bool) : String :=
  if hasPending then
    "Desktop rejected transfer asset completion because request ids do not match the active binary stream."
  else "Desktop did not receive transfer asset stream metadata before completion."

-- The pending object is mutated in place; the cached id is set only after its write.
def Staging.appendTo (staging : Staging) (pending : PendingUpload) (chunk : Bytes) (faults : FileFaults) :
    Except OSError (Option String) × Staging :=
  let written := {staging with
    pendingByRequestId:=staging.pendingByRequestId.modify (fun other => other.requestId = pending.requestId)
      (fun other => {(pending.appendChunk chunk faults.write).2 with requestId:=other.requestId}) fun _ => rfl}
  match (pending.appendChunk chunk faults.write).1 with
  | some error => (.error error,written)
  | none => (.ok none,{written with lastActive:=some pending.requestId})

def Staging.appendChunk (staging : Staging) (chunk : Bytes) (requestId : Option String) (faults : FileFaults) :
    Except OSError (Option String) × Staging :=
  if chunk = [] then (.ok none,staging)
  else if transferAssetStreamChunkSizeBytes < chunk.length then (.ok (some chunkTooLarge),staging)
  else match staging.resolve requestId with
    | none => (.ok (some (unmatchedChunk staging.hasPending)),staging)
    | some pending => staging.appendTo pending chunk faults

def Staging.forget (staging : Staging) (requestId : String) : Staging :=
  {staging.pop requestId with lastActive:=if staging.lastActive = some requestId then none else staging.lastActive}

def Staging.complete (lib : Libraries) (staging : Staging) (requestId : String) (faults : FileFaults) :
    Except OSError (Except String TransferAssetUploadPayload) × Staging :=
  match staging.pending? requestId with
  | none => (.ok (.error (unmatchedCompletion staging.hasPending)),staging)
  | some pending =>
    let finished := pending.toPayload lib faults staging.files
    (finished.1.map .ok,{staging.forget requestId with files:=finished.2})

def Staging.discard (staging : Staging) (requestId : String) (faults : FileFaults) :
    Except OSError (Option Fields) × Staging :=
  match staging.pending? requestId with
  | none => (.ok none,staging)
  | some pending =>
    let forgotten := {staging.forget requestId with files:=(pending.close faults staging.files).2}
    match (pending.close faults staging.files).1 with
    | some error => (.error error,forgotten)
    | none => (.ok (some pending.metadataPayload),forgotten)

variable {staging before middle after : Staging} {pending fresh : PendingUpload} {faults : FileFaults}
  {requestId name : String}

-- The uploads have files of their own, and every one of them is there.
structure Separate (staging : Staging) : Prop where
  distinct : (staging.pendingByRequestId.rows.map PendingUpload.tempFilePath).Nodup
  present : ∀ pending ∈ staging.pendingByRequestId.rows, (staging.files pending.tempFilePath).isSome

structure Narrowed (before after : Staging) : Prop where
  rows : after.pendingByRequestId.rows.Sublist before.pendingByRequestId.rows
  files : ∀ pending ∈ after.pendingByRequestId.rows, after.files pending.tempFilePath = before.files pending.tempFilePath

theorem narrowed_refl : Narrowed staging staging := ⟨List.Sublist.refl _,fun _ _ => rfl⟩

theorem narrowed_trans (one : Narrowed before middle) (two : Narrowed middle after) : Narrowed before after :=
  ⟨two.rows.trans one.rows,fun pending member => (two.files pending member).trans (one.files pending (two.rows.subset member))⟩

theorem narrowed_separate (narrowed : Narrowed before after) (separate : Separate before) : Separate after := by
  refine ⟨(narrowed.rows.map _).nodup separate.distinct,?_⟩
  intro pending member
  rw [narrowed.files pending member]
  exact separate.present pending (narrowed.rows.subset member)

theorem pending_mem (found : staging.pending? requestId = some pending) :
    pending ∈ staging.pendingByRequestId.rows ∧ pending.requestId = requestId := find_mem found

theorem resolve_mem {id : Option String} (found : staging.resolve id = some pending) :
    id.or staging.activeRequestId = some pending.requestId ∧ pending ∈ staging.pendingByRequestId.rows := by
  obtain ⟨resolved,chosen,located⟩ := Option.bind_eq_some_iff.mp found
  obtain ⟨member,rfl⟩ := pending_mem located
  exact ⟨chosen,member⟩

theorem mem_pop : pending ∈ (staging.pop requestId).pendingByRequestId.rows ↔
    pending ∈ staging.pendingByRequestId.rows ∧ pending.requestId ≠ requestId := by
  simp [Staging.pop,mem_delete]

theorem same_upload (separate : Separate staging) {other : PendingUpload}
    (one : pending ∈ staging.pendingByRequestId.rows) (two : other ∈ staging.pendingByRequestId.rows)
    (same : pending.tempFilePath = other.tempFilePath) : pending = other :=
  List.inj_on_of_nodup_map separate.distinct one two same

theorem pop_narrowed (separate : Separate staging) (found : staging.pending? requestId = some pending) {files : TempFiles}
    {active : Option String} (untouched : ∀ name ≠ pending.tempFilePath, files name = staging.files name) :
    Narrowed staging ⟨(staging.pop requestId).pendingByRequestId,active,files⟩ := by
  obtain ⟨member,named⟩ := pending_mem found
  refine ⟨List.filter_sublist,?_⟩
  intro other remains
  obtain ⟨old,different⟩ := mem_pop.mp remains
  apply untouched
  intro same
  have equal := same_upload separate old member same
  exact different (equal ▸ named)

theorem close_untouched (name : String) (different : name ≠ pending.tempFilePath) (files : TempFiles) :
    (pending.close faults files).2 name = files name := by
  simp [PendingUpload.close,different]

theorem payload_untouched (lib : Libraries) (name : String) (different : name ≠ pending.tempFilePath) (files : TempFiles) :
    (pending.toPayload lib faults files).2 name = files name := by
  have other : name ≠ pending.tempFileHandle.name := different
  unfold PendingUpload.toPayload
  split
  · rfl
  · dsimp only
    split <;> simp [flushHandle,other]

theorem closeAll_other {pendings : List PendingUpload} {files : TempFiles}
    (apart : name ∉ pendings.map PendingUpload.tempFilePath) : (closeAll faults pendings files).2 name = files name := by
  induction pendings generalizing files with
  | nil => rfl
  | cons pending rest ih =>
      rw [List.map_cons,List.mem_cons,not_or] at apart
      have kept : (pending.close faults files).2 name = files name := close_untouched name apart.1 files
      unfold closeAll
      split
      · rename_i closed
        rw [closed] at kept
        exact kept
      · rename_i closed
        rw [closed] at kept
        exact (ih apart.2).trans kept

theorem clear_narrowed : Narrowed staging (staging.clear faults).2 :=
  ⟨List.nil_sublist _,fun _ member => absurd member (List.not_mem_nil)⟩

theorem put_rows (absent : staging.pending? fresh.requestId = none) :
    (staging.put fresh).pendingByRequestId.rows = staging.pendingByRequestId.rows ++ [fresh] := by
  have missing := find_none.mp absent
  have inserted : ∃ next, staging.pendingByRequestId.insert? fresh = some next := by
    cases outcome : staging.pendingByRequestId.insert? fresh with
    | none => exact absurd (insert_refused.mp outcome) missing
    | some next => exact ⟨next,rfl⟩
  obtain ⟨next,inserted⟩ := inserted
  simp only [Staging.put,Table.upsert,inserted]
  exact (insert_parts inserted).2

theorem pop_absent : (staging.pop requestId).pending? requestId = none := by
  refine find_none.mpr fun present => ?_
  obtain ⟨pending,remains,named⟩ := List.mem_map.mp present
  exact (mem_pop.mp remains).2 named

theorem paths_untouched (free : staging.files name = none) (separate : Separate staging) :
    name ∉ staging.pendingByRequestId.rows.map PendingUpload.tempFilePath := by
  intro taken
  obtain ⟨pending,member,rfl⟩ := List.mem_map.mp taken
  have there := separate.present pending member
  rw [free] at there
  cases there

theorem create_narrowed (separate : Separate staging) (free : staging.files name = none) :
    Narrowed staging {staging with files:=Function.update staging.files name (some [])} := by
  refine ⟨List.Sublist.refl _,?_⟩
  intro pending member
  have other : pending.tempFilePath ≠ name := by
    rintro rfl
    exact paths_untouched free separate (List.mem_map_of_mem member)
  simp [other]

-- Either the upload that was replaced does not close, or the new one is put beside
-- those that remain.
theorem register_parts (separate : Separate staging) :
    (∃ error, (staging.register fresh faults).1 = some error ∧ Narrowed staging (staging.register fresh faults).2) ∨
      ((staging.register fresh faults).1 = none ∧ ∃ middle, Narrowed staging middle ∧
        middle.pending? fresh.requestId = none ∧ (staging.register fresh faults).2 = middle.put fresh ∧
        ∀ name ∉ staging.pendingByRequestId.rows.map PendingUpload.tempFilePath, middle.files name = staging.files name) := by
  unfold Staging.register
  split
  · rename_i absent
    exact .inr ⟨rfl,staging,narrowed_refl,absent,rfl,fun _ _ => rfl⟩
  · rename_i existing found
    have untouched : ∀ name ≠ existing.tempFilePath, (existing.close faults staging.files).2 name = staging.files name :=
      fun name different => close_untouched name different staging.files
    dsimp only
    split
    · rename_i error closed failed
      rw [failed] at untouched
      exact .inl ⟨error,rfl,pop_narrowed separate found untouched⟩
    · rename_i closed succeeded
      rw [succeeded] at untouched
      refine .inr ⟨rfl,_,pop_narrowed separate found untouched,pop_absent,rfl,?_⟩
      intro name apart
      apply untouched
      rintro rfl
      exact apart (List.mem_map_of_mem (pending_mem found).1)

-- A start that succeeds puts an upload with the new, empty file beside those that remain.
theorem start_parts {metadataPayload : Fields} {key : Option String} {exclusive : Bool} (separate : Separate staging)
    (free : staging.files name = none) :
    (∃ error, (staging.start requestId metadataPayload key exclusive name faults).1 = some error ∧
        Narrowed staging (staging.start requestId metadataPayload key exclusive name faults).2) ∨
      ((staging.start requestId metadataPayload key exclusive name faults).1 = none ∧ ∃ middle, Narrowed staging middle ∧
        middle.pending? requestId = none ∧ middle.files name = some [] ∧
        name ∉ middle.pendingByRequestId.rows.map PendingUpload.tempFilePath ∧
        (staging.start requestId metadataPayload key exclusive name faults).2 =
          middle.put (newUpload requestId metadataPayload key name)) := by
  have apart := paths_untouched free separate
  obtain ⟨created,made⟩ : ∃ created, created = {staging with files:=Function.update staging.files name (some [])} := ⟨_,rfl⟩
  have narrowed : Narrowed staging created := made ▸ create_narrowed separate free
  have rows : created.pendingByRequestId = staging.pendingByRequestId := by rw [made]
  have empty : created.files name = some [] := by rw [made]; simp
  -- What register does after the file was made, from any state that file is in.
  have registered : ∀ opened, Narrowed created opened → opened.files name = some [] →
      (∃ error, (opened.register (newUpload requestId metadataPayload key name) faults).1 = some error ∧
        Narrowed staging (opened.register (newUpload requestId metadataPayload key name) faults).2) ∨
      ((opened.register (newUpload requestId metadataPayload key name) faults).1 = none ∧ ∃ middle, Narrowed staging middle ∧
        middle.pending? requestId = none ∧ middle.files name = some [] ∧
        name ∉ middle.pendingByRequestId.rows.map PendingUpload.tempFilePath ∧
        (opened.register (newUpload requestId metadataPayload key name) faults).2 =
          middle.put (newUpload requestId metadataPayload key name)) := by
    intro opened reached there
    have before := narrowed_trans narrowed reached
    have free : name ∉ opened.pendingByRequestId.rows.map PendingUpload.tempFilePath := by
      intro taken
      exact apart ((before.rows.map _).subset taken)
    rcases @register_parts opened (newUpload requestId metadataPayload key name) faults
        (narrowed_separate before separate) with ⟨error,failed,kept⟩ | ⟨done,middle,kept,absent,result,others⟩
    · exact .inl ⟨error,failed,narrowed_trans before kept⟩
    · refine .inr ⟨done,middle,narrowed_trans before kept,absent,(others name free).trans there,?_,result⟩
      intro taken
      exact free ((kept.rows.map _).subset taken)
  cases outcome : faults.create with
  | some error =>
      refine .inl ⟨error,?_,?_⟩
      · simp [Staging.start,outcome]
      · simpa [Staging.start,outcome] using narrowed_refl
  | none =>
      cases exclusive with
      | false =>
          have unfolded : staging.start requestId metadataPayload key false name faults =
              created.register (newUpload requestId metadataPayload key name) faults := by
            simp [Staging.start,outcome,made]
          rw [unfolded]
          exact registered created narrowed_refl empty
      | true =>
          have closed : (created.clear faults).2.files name = some [] := by
            refine Eq.trans (closeAll_other ?_) empty
            rw [rows]
            exact apart
          cases cleared : created.clear faults with
          | mk error opened =>
              have reached : Narrowed created (created.clear faults).2 := clear_narrowed
              rw [cleared] at closed reached
              cases error with
              | some error =>
                  have unfolded : staging.start requestId metadataPayload key true name faults = (some error,opened) := by
                    simp [Staging.start,outcome,← made,cleared]
                  rw [unfolded]
                  exact .inl ⟨error,rfl,narrowed_trans narrowed reached⟩
              | none =>
                  have unfolded : staging.start requestId metadataPayload key true name faults =
                      opened.register (newUpload requestId metadataPayload key name) faults := by
                    simp [Staging.start,outcome,← made,cleared]
                  rw [unfolded]
                  exact registered opened reached closed

variable {chunk : Bytes} {given : Option String} {other : PendingUpload}

@[simp] theorem appended_id (fault : Option (OSError × Nat)) :
    (pending.appendChunk chunk fault).2.requestId = pending.requestId := by
  cases fault <;> rfl

@[simp] theorem appended_path (fault : Option (OSError × Nat)) :
    (pending.appendChunk chunk fault).2.tempFilePath = pending.tempFilePath := by
  cases fault <;> rfl

theorem appendTo_rows : (staging.appendTo pending chunk faults).2.pendingByRequestId.rows =
    staging.pendingByRequestId.rows.map fun other => if other.requestId = pending.requestId then
      {(pending.appendChunk chunk faults.write).2 with requestId:=other.requestId} else other := by
  unfold Staging.appendTo
  dsimp only
  split <;> simp [Table.modify]

theorem appendTo_files : (staging.appendTo pending chunk faults).2.files = staging.files := by
  unfold Staging.appendTo
  dsimp only
  split <;> rfl

theorem appendTo_row (member : pending ∈ staging.pendingByRequestId.rows) (present : other ∈ staging.pendingByRequestId.rows)
    (same : other.requestId = pending.requestId) (fault : Option (OSError × Nat)) :
    {(pending.appendChunk chunk fault).2 with requestId:=other.requestId} = (pending.appendChunk chunk fault).2 ∧
      other = pending := by
  have equal : other = pending := List.inj_on_of_nodup_map staging.pendingByRequestId.distinct present member same
  subst equal
  exact ⟨by cases fault <;> rfl,rfl⟩

theorem appendTo_mem (member : pending ∈ staging.pendingByRequestId.rows)
    (present : other ∈ (staging.appendTo pending chunk faults).2.pendingByRequestId.rows) :
    other = (pending.appendChunk chunk faults.write).2 ∨
      (other ∈ staging.pendingByRequestId.rows ∧ other.requestId ≠ pending.requestId) := by
  rw [appendTo_rows] at present
  obtain ⟨old,there,rfl⟩ := List.mem_map.mp present
  by_cases same : old.requestId = pending.requestId
  · rw [if_pos same]
    exact .inl (appendTo_row member there same faults.write).1
  · rw [if_neg same]
    exact .inr ⟨there,same⟩

theorem appendTo_paths (member : pending ∈ staging.pendingByRequestId.rows) :
    (staging.appendTo pending chunk faults).2.pendingByRequestId.rows.map PendingUpload.tempFilePath =
      staging.pendingByRequestId.rows.map PendingUpload.tempFilePath := by
  rw [appendTo_rows,List.map_map]
  refine List.map_congr_left fun other present => ?_
  rw [Function.comp_apply]
  by_cases same : other.requestId = pending.requestId
  · obtain ⟨row,equal⟩ := @appendTo_row staging pending chunk other member present same faults.write
    rw [if_pos same,row,appended_path,equal]
  · rw [if_neg same]

theorem append_parts : ((staging.appendChunk chunk given faults).2 = staging ∧
      ((staging.appendChunk chunk given faults).1 = .ok none → chunk = [])) ∨
    ∃ pending, staging.resolve given = some pending ∧
      staging.appendChunk chunk given faults = staging.appendTo pending chunk faults := by
  unfold Staging.appendChunk
  split
  · rename_i empty
    exact .inl ⟨rfl,fun _ => empty⟩
  · split
    · exact .inl ⟨rfl,fun accepted => by cases accepted⟩
    · split
      · exact .inl ⟨rfl,fun accepted => by cases accepted⟩
      · rename_i pending found
        exact .inr ⟨pending,found,rfl⟩

theorem complete_narrowed (lib : Libraries) (separate : Separate staging) :
    Narrowed staging (staging.complete lib requestId faults).2 := by
  unfold Staging.complete
  split
  · exact narrowed_refl
  · rename_i pending found
    exact pop_narrowed separate found fun name different => payload_untouched lib name different staging.files

theorem discard_narrowed (separate : Separate staging) : Narrowed staging (staging.discard requestId faults).2 := by
  unfold Staging.discard
  split
  · exact narrowed_refl
  · rename_i pending found
    have kept : Narrowed staging {staging.forget requestId with files:=(pending.close faults staging.files).2} :=
      pop_narrowed separate found fun name different => close_untouched name different staging.files
    dsimp only
    split <;> exact kept

inductive Call where
  | start (requestId : String) (metadataPayload : Fields) (encryptionTrustKeyB64 : Option String) (exclusive : Bool)
      (name : String)
  | appendChunk (chunk : Bytes) (requestId : Option String)
  | complete (requestId : String)
  | discard (requestId : String)
  | clear

-- What a call returns: nothing, the text of a refusal, a payload, the discarded
-- metadata, or an exception.
inductive Reply where
  | done
  | refused (message : String)
  | completed (payload : TransferAssetUploadPayload)
  | discarded (metadataPayload : Option Fields)
  | raised (error : OSError)

def Reply.ofAppend : Except OSError (Option String) → Reply
  | .error error => .raised error
  | .ok (some message) => .refused message
  | .ok none => .done

def Reply.ofComplete : Except OSError (Except String TransferAssetUploadPayload) → Reply
  | .error error => .raised error
  | .ok (.error message) => .refused message
  | .ok (.ok payload) => .completed payload

def Reply.ofDiscard : Except OSError (Option Fields) → Reply
  | .error error => .raised error
  | .ok metadataPayload => .discarded metadataPayload

def Reply.ofUnit : Option OSError → Reply
  | some error => .raised error
  | none => .done

def Staging.perform (lib : Libraries) (staging : Staging) (faults : FileFaults) : Call → Reply × Staging
  | .start requestId metadataPayload key exclusive name =>
    (staging.start requestId metadataPayload key exclusive name faults).map .ofUnit id
  | .appendChunk chunk requestId => (staging.appendChunk chunk requestId faults).map .ofAppend id
  | .complete requestId => (staging.complete lib requestId faults).map .ofComplete id
  | .discard requestId => (staging.discard requestId faults).map .ofDiscard id
  | .clear => (staging.clear faults).map .ofUnit id

structure Entry where
  call : Call
  active : Option String
  reply : Reply

structure Run where
  staging : Staging
  history : List Entry

def Run.new : Run := ⟨.new,[]⟩

-- NamedTemporaryFile creates its file under a name that no file has.
def Run.offers (run : Run) : Call → Bool
  | .start _ _ _ _ name => (run.staging.files name).isNone
  | _ => true

def Run.record (run : Run) (call : Call) (performed : Reply × Staging) : Run :=
  ⟨performed.2,⟨call,run.staging.activeRequestId,performed.1⟩ :: run.history⟩

def calls (lib : Libraries) : System Run (Call × FileFaults) where
  step run label :=
    if run.offers label.1 then some (run.record label.1 (run.staging.perform lib label.2 label.1)) else none

theorem calls_parts {lib : Libraries} {run next : Run} {label : Call × FileFaults}
    (taken : (calls lib).step run label = some next) :
    run.offers label.1 = true ∧ next = run.record label.1 (run.staging.perform lib label.2 label.1) := by
  have taken : (if run.offers label.1 then some (run.record label.1 (run.staging.perform lib label.2 label.1)) else none) =
      some next := taken
  split at taken
  · rename_i offered
    cases taken
    exact ⟨offered,rfl⟩
  · cases taken

theorem put_separate (separate : Separate staging) (absent : staging.pending? fresh.requestId = none)
    (apart : fresh.tempFilePath ∉ staging.pendingByRequestId.rows.map PendingUpload.tempFilePath)
    (present : (staging.files fresh.tempFilePath).isSome) : Separate (staging.put fresh) := by
  refine ⟨?_,?_⟩
  · rw [put_rows absent,List.map_append,List.map_singleton]
    exact List.Nodup.append separate.distinct (List.nodup_singleton _) (by simpa using apart)
  · intro pending member
    rw [put_rows absent] at member
    rcases List.mem_append.mp member with old | new
    · exact separate.present pending old
    · cases List.mem_singleton.mp new
      exact present

theorem start_separate {metadataPayload : Fields} {key : Option String} {exclusive : Bool} (separate : Separate staging)
    (free : staging.files name = none) :
    Separate (staging.start requestId metadataPayload key exclusive name faults).2 := by
  rcases @start_parts staging faults requestId name metadataPayload key exclusive separate free with
    ⟨-,-,narrowed⟩ | ⟨-,middle,narrowed,absent,empty,apart,result⟩
  · exact narrowed_separate narrowed separate
  · rw [result]
    refine put_separate (narrowed_separate narrowed separate) absent apart ?_
    have there : (middle.files name).isSome := by rw [empty]; rfl
    exact there

theorem append_separate (separate : Separate staging) : Separate (staging.appendChunk chunk given faults).2 := by
  rcases @append_parts staging faults chunk given with ⟨same,-⟩ | ⟨pending,found,result⟩
  · rwa [same]
  · have member := (resolve_mem found).2
    rw [result]
    refine ⟨?_,?_⟩
    · rw [appendTo_paths member]
      exact separate.distinct
    · intro other present
      rw [appendTo_files]
      rcases appendTo_mem member present with rfl | ⟨old,-⟩
      · rw [appended_path]
        exact separate.present pending member
      · exact separate.present other old

theorem new_separate : Separate Staging.new := ⟨List.nodup_nil,fun _ member => absurd member (List.not_mem_nil)⟩

end ImageSearch.StagedUploads
