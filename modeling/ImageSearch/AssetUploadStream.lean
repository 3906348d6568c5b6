import ImageSearch.Payload
import Mathlib.Data.List.AList

namespace ImageSearch.AssetUploadStream
open Payload

def transferAssetStreamStateField : String := "stream_state"
def transferAssetStreamStateStart : String := "start"
def transferAssetStreamStateComplete : String := "complete"
def transferAssetStreamChunkSizeBytes : Nat := 100 * 1024 * 1024

-- `tempFile` numbers the staged file; what was written to it so far is the content.
structure PendingTransferAssetUpload where
  requestId : String
  metadataPayload : Fields
  tempFile : Nat
  content : Bytes
  encryptionTrustKeyB64 : Option String

def PendingTransferAssetUpload.appendChunk (pending : PendingTransferAssetUpload) (chunk : Bytes) : PendingTransferAssetUpload :=
  {pending with content:=pending.content ++ chunk}

structure TransferAssetUploadStream where
  pendingByRequestId : AList fun _ : String => PendingTransferAssetUpload
  lastActive : Option String
  nextFile : Nat

def TransferAssetUploadStream.new : TransferAssetUploadStream := ⟨∅,none,0⟩

variable (stream : TransferAssetUploadStream)

def TransferAssetUploadStream.hasPending : Bool := !stream.pendingByRequestId.keys.isEmpty

def TransferAssetUploadStream.activeRequestId : Option String :=
  match stream.lastActive.filter fun requestId => requestId ∈ stream.pendingByRequestId with
  | some requestId => some requestId
  | none => match stream.pendingByRequestId.keys with
    | [requestId] => some requestId
    | _ => none

def TransferAssetUploadStream.clear : TransferAssetUploadStream :=
  {stream with
    pendingByRequestId:=∅
    lastActive:=none}

def TransferAssetUploadStream.start (requestId : String) (metadataPayload : Fields) (encryptionTrustKeyB64 : Option String)
    (exclusive : Bool) : TransferAssetUploadStream :=
  let opened := if exclusive then stream.clear else stream
  {opened with
    pendingByRequestId:=(opened.pendingByRequestId.erase requestId).insert requestId
      ⟨requestId,metadataPayload,stream.nextFile,[],encryptionTrustKeyB64⟩
    lastActive:=some requestId
    nextFile:=stream.nextFile + 1}

def chunkTooLarge : String :=
  "Desktop rejected transfer asset stream chunk because the binary payload exceeded " ++
    s!"{transferAssetStreamChunkSizeBytes} bytes."

def unmatchedChunk : String :=
  if stream.hasPending then
    "Desktop rejected transfer asset stream chunk because request ids do not match the active binary stream."
  else "Desktop ignored transfer asset stream chunk because metadata was not received first."

def unmatchedCompletion : String :=
  if stream.hasPending then
    "Desktop rejected transfer asset completion because request ids do not match the active binary stream."
  else "Desktop did not receive transfer asset stream metadata before completion."

def TransferAssetUploadStream.find (requestId : Option String) : Option PendingTransferAssetUpload := do
  let resolved ← requestId.or stream.activeRequestId
  stream.pendingByRequestId.lookup resolved

def TransferAssetUploadStream.appendChunk (chunk : Bytes) (requestId : Option String) :
    Option String × TransferAssetUploadStream :=
  if chunk = [] then (none,stream)
  else if transferAssetStreamChunkSizeBytes < chunk.length then (some chunkTooLarge,stream)
  else match requestId.or stream.activeRequestId with
    | none => (some (unmatchedChunk stream),stream)
    | some resolved => match stream.pendingByRequestId.lookup resolved with
      | none => (some (unmatchedChunk stream),stream)
      | some pending => (none,{stream with
          pendingByRequestId:=stream.pendingByRequestId.insert resolved (pending.appendChunk chunk)
          lastActive:=some pending.requestId})

def TransferAssetUploadStream.complete (requestId : String) :
    Except String PendingTransferAssetUpload × TransferAssetUploadStream :=
  match stream.pendingByRequestId.lookup requestId with
  | none => (.error (unmatchedCompletion stream),stream)
  | some pending => (.ok pending,{stream with
      pendingByRequestId:=stream.pendingByRequestId.erase requestId
      lastActive:=if stream.lastActive = some requestId then none else stream.lastActive})

def TransferAssetUploadStream.encryptionTrustKey (requestId : Option String) : Option String :=
  (stream.find requestId).bind PendingTransferAssetUpload.encryptionTrustKeyB64

def TransferAssetUploadStream.fileOf (requestId : String) : Option Nat :=
  (stream.pendingByRequestId.lookup requestId).map PendingTransferAssetUpload.tempFile

section Files
variable {stream : TransferAssetUploadStream} {requestId other : String} {metadataPayload : Fields} {key : Option String}
  {chunk : Bytes} {id : Option String}

@[simp] theorem start_file : (stream.start requestId metadataPayload key false).fileOf requestId = some stream.nextFile := by
  simp [TransferAssetUploadStream.start,TransferAssetUploadStream.fileOf]

theorem start_other (different : other ≠ requestId) :
    (stream.start requestId metadataPayload key false).fileOf other = stream.fileOf other := by
  simp [TransferAssetUploadStream.start,TransferAssetUploadStream.fileOf,AList.lookup_insert_ne different,
    AList.lookup_erase_ne different]

@[simp] theorem start_nextFile : (stream.start requestId metadataPayload key false).nextFile = stream.nextFile + 1 := rfl

theorem append_file (other : String) : (stream.appendChunk chunk id).2.fileOf other = stream.fileOf other := by
  unfold TransferAssetUploadStream.appendChunk
  split
  · rfl
  · split
    · rfl
    · split
      · rfl
      · rename_i resolved _
        split
        · rfl
        · rename_i pending found
          simp only [TransferAssetUploadStream.fileOf]
          by_cases same : other = resolved
          · subst same
            simp [found,PendingTransferAssetUpload.appendChunk]
          · rw [AList.lookup_insert_ne same]

@[simp] theorem append_nextFile : (stream.appendChunk chunk id).2.nextFile = stream.nextFile := by
  unfold TransferAssetUploadStream.appendChunk
  split
  · rfl
  · split
    · rfl
    · split
      · rfl
      · split <;> rfl

theorem complete_other (different : other ≠ requestId) : (stream.complete requestId).2.fileOf other = stream.fileOf other := by
  unfold TransferAssetUploadStream.complete
  split
  · rfl
  · simp [TransferAssetUploadStream.fileOf,AList.lookup_erase_ne different]

@[simp] theorem complete_self : (stream.complete requestId).2.fileOf requestId = none := by
  unfold TransferAssetUploadStream.complete
  split
  · rename_i absent
    simp [TransferAssetUploadStream.fileOf,absent]
  · simp [TransferAssetUploadStream.fileOf]

@[simp] theorem complete_nextFile : (stream.complete requestId).2.nextFile = stream.nextFile := by
  unfold TransferAssetUploadStream.complete
  split <;> rfl

end Files

end ImageSearch.AssetUploadStream
