import ImageSearch.DataChannels
import Mathlib.Algebra.GroupWithZero.Nat

namespace ImageSearch.WebTransfers
open Payload SharedStashes DataChannels

def chunkHeaderSize : Nat := 8

def packField (value : Nat) : Bytes := [value / 2 ^ 24,value / 2 ^ 16,value / 2 ^ 8,value].map UInt8.ofNat

def itemJson (item : ManifestItem) : Json :=
  .object ([("index",.int item.index),("type",.string item.type),("content_type",.string item.contentType),
    ("filename",.string item.filename),("size_bytes",.int item.sizeBytes)] ++
    item.content.elim [] fun content => [("content",.string content)])

def frameJson : Frame → Option Json
  | .authOk payloadType => some (.object [("msg",.string "auth_ok"),("payload_type",.string payloadType)])
  | .authError => some (.object [("msg",.string "auth_error"),("error",.string "Invalid opt code")])
  | .error code message => some (.object [("msg",.string "error"),("code",.string code),("message",.string message)])
  | .manifest files => some (.object [("msg",.string "manifest"),("files",.array (files.map itemJson))])
  | .fileStart index contentType filename size chunks => some (.object [("msg",.string "file_start"),("index",index),
      ("content_type",.string contentType),("filename",.string filename),("size",.int size),("chunks",.int chunks)])
  | .chunk _ _ _ => none
  | .fileEnd index => some (.object [("msg",.string "file_end"),("index",index)])

-- With JSON.parse, none where it throws, JSON.stringify and TextDecoder.decode.
structure Languages extends Python where
  parse : String → Option Json
  stringify : Json → String
  decodeText : Bytes → String

variable (code : Languages)

def encodeFrame (frame : Frame) : Message :=
  match frame,frameJson frame with
  | .chunk index offset data,_ => .binary (packField index ++ packField offset ++ data)
  | _,some json => .text (code.dumps json ++ "\n\n")
  | _,none => .text ""

def knownMsgs : List String :=
  ["auth","auth_ok","auth_error","manifest","download","file_start","file_end","error","bye"]

inductive WireEvent where
  | control (msg : String) (fields : Fields)
  | binary (buffer : Bytes)

def knownControl (json : Json) : Option WireEvent :=
  match json with
  | .object fields =>
    match fields.lookup "msg" with
    | some (.string msg) => if msg ∈ knownMsgs then some (.control msg fields) else none
    | _ => none
  | _ => none

-- What is no known message is null for a text and a chunk for a buffer.
def decodeWireEvent (data : Message) : Option WireEvent :=
  match data with
  | .binary bytes => some (((code.parse (code.decodeText bytes)).bind knownControl).getD (.binary bytes))
  | .text text => if text = "" then none else (code.parse text).bind knownControl

structure ManifestFileEntry where
  index : Int
  type : String
  contentType : String
  sizeBytes : Option Int
  filename : Option String
  content : Option String
  deriving DecidableEq, Repr

def ManifestFileEntry.isInline (entry : ManifestFileEntry) : Bool := entry.type = "text" || entry.type = "link" || entry.type = "html"

def textField (fields : Fields) (name : String) : Option String :=
  match fields.lookup name with
  | some (.string value) => some value
  | _ => none

def numberField (fields : Fields) (name : String) : Option Int :=
  match fields.lookup name with
  | some (.int value) => some value
  | _ => none

def readEntry (json : Json) : Option ManifestFileEntry :=
  match json with
  | .object fields => do
    some ⟨← numberField fields "index",← textField fields "type",← textField fields "content_type",numberField fields "size_bytes",
      textField fields "filename",textField fields "content"⟩
  | _ => none

-- The messages of the desktop by what the page reads of them. A message that lacks what its
-- type says has no reading here.
inductive ControlMessage where
  | authOk (payloadType : String)
  | authError (error : String)
  | manifest (files : List ManifestFileEntry)
  | fileStart (index : Int) (contentType filename : String) (size : Int)
  | fileEnd (index : Int)
  | error (code message : String)
  | bye
  deriving DecidableEq, Repr

def readControl (msg : String) (fields : Fields) : Option ControlMessage :=
  match msg with
  | "auth_ok" => (textField fields "payload_type").map .authOk
  | "auth_error" => (textField fields "error").map .authError
  | "manifest" =>
    match fields.lookup "files" with
    | some (.array items) => (items.mapM readEntry).map .manifest
    | _ => none
  | "file_start" => do
    some (.fileStart (← numberField fields "index") (← textField fields "content_type") (← textField fields "filename")
      (← numberField fields "size"))
  | "file_end" => (numberField fields "index").map .fileEnd
  | "error" => do some (.error (← textField fields "code") (← textField fields "message"))
  | "bye" => some .bye
  | _ => none

inductive FileStatus where
  | queued | downloading | done
  deriving DecidableEq, Repr

structure FileProgress where
  index : Int
  filename : Option String
  contentType : String
  size : Int
  received : Int := 0
  blob : Option Bytes := none
  status : FileStatus := .queued
  deriving DecidableEq, Repr

inductive TransferState where
  | connecting
  | authenticating
  | transferring
  | done
  | error (code message : String)
  deriving DecidableEq, Repr

structure CurrentBinary where
  index : Int
  chunks : List Bytes
  contentType : String
  filename : String
  size : Int
  deriving DecidableEq, Repr

-- useTransfer: its state and refs. `pending` is the manifest too.
structure Transfer where
  state : TransferState := .connecting
  files : List FileProgress := []
  current : Option CurrentBinary := none
  pending : Option (List ManifestFileEntry) := none
  nextDownloadIndex : Int := 0
  payloadType : Option String := none
  channelOpen : Bool := true
  deriving DecidableEq, Repr

structure FileEntryInput where
  index : Int
  type : String
  contentType : String
  filename : String
  size : Nat
  blob : Bytes
  deriving DecidableEq, Repr

inductive Effect where
  | auth (optCode : String)
  | manifest
  | download (index : Int)
  | bye
  | saveFile (entry : FileEntryInput)
  | completeSession
  deriving DecidableEq, Repr

def requestJson : Effect → Option Json
  | .auth optCode => some (.object [("msg",.string "auth"),("opt_code",.string optCode)])
  | .manifest => some (.object [("msg",.string "manifest")])
  | .download index => some (.object [("msg",.string "download"),("index",.int index)])
  | .bye => some (.object [("msg",.string "bye")])
  | .saveFile _ | .completeSession => none

def sendControl (t : Transfer) (message : Effect) : List Effect := if t.channelOpen then [message] else []

def changeFile (index : Int) (change : FileProgress → FileProgress) (files : List FileProgress) : List FileProgress :=
  files.map fun f => if f.index = index then change f else f

def finishInline (f : FileProgress) : FileProgress := {f with status:=.done,received:=f.size}

-- downloadNext from the entry `idx` on; the last call closes the connection.
def downloadFrom (t : Transfer) (idx : Int) : List ManifestFileEntry → Transfer × List Effect
  | [] => ({t with state:=.done,nextDownloadIndex:=idx,channelOpen:=false},.completeSession :: sendControl t .bye)
  | entry :: rest =>
    if entry.isInline then downloadFrom {t with files:=changeFile idx finishInline t.files} (idx + 1) rest
    else ({t with nextDownloadIndex:=idx},sendControl t (.download idx))

-- An index below zero finds no entry: the handler throws.
def downloadNext (t : Transfer) : Transfer × List Effect :=
  if t.nextDownloadIndex < 0 then (t,[])
  else downloadFrom t t.nextDownloadIndex ((t.pending.getD []).drop t.nextDownloadIndex.toNat)

-- String.length counts UTF-16 units.
def utf16Length (text : String) : Nat := (text.toList.map fun c => if c.toNat < 65536 then 1 else 2).sum

def listed (entry : ManifestFileEntry) : FileProgress :=
  {index:=entry.index,filename:=entry.filename,contentType:=entry.contentType,
    size:=entry.sizeBytes.getD (entry.content.elim 0 fun content => utf16Length content)}

def inlineInput (entry : ManifestFileEntry) : Option FileEntryInput :=
  if entry.isInline then entry.content.map fun content =>
    let blob := content.toUTF8.data.toList
    ⟨entry.index,entry.type,if entry.type = "html" then "text/html" else "text/plain",entry.filename.getD (entry.type ++ ".txt"),
      blob.length,blob⟩
  else none

def startFile (contentType filename : String) (size : Int) (f : FileProgress) : FileProgress :=
  {f with status:=.downloading,contentType,filename:=some filename,size}

def receiveChunk (t : Transfer) (buffer : Bytes) : Transfer :=
  match t.current with
  | some current =>
    let payload := buffer.drop chunkHeaderSize
    {t with
      current:=some {current with chunks:=current.chunks ++ [payload]}
      files:=changeFile current.index (fun f => {f with received:=f.received + payload.length}) t.files}
  | none => t

def endFile (t : Transfer) (current : CurrentBinary) : Transfer × List Effect :=
  let blob := current.chunks.flatten
  let next := downloadNext {t with
    files:=changeFile current.index (fun f => {f with status:=.done,received:=f.size,blob:=some blob}) t.files
    current:=none
    nextDownloadIndex:=current.index + 1}
  (next.1,.saveFile ⟨current.index,"file",current.contentType,current.filename,blob.length,blob⟩ :: next.2)

def handleControl (t : Transfer) : ControlMessage → Transfer × List Effect
  | .authOk payloadType => ({t with payloadType:=some payloadType,state:=.transferring},sendControl t .manifest)
  | .authError error => ({t with state:=.error "auth_error" error},[])
  | .manifest files =>
    let next := downloadNext {t with pending:=some files,nextDownloadIndex:=0,files:=files.map listed}
    (next.1,files.filterMap (fun entry => (inlineInput entry).map .saveFile) ++ next.2)
  | .fileStart index contentType filename size => ({t with
      current:=some ⟨index,[],contentType,filename,size⟩
      files:=changeFile index (startFile contentType filename size) t.files},[])
  | .fileEnd index =>
    match t.current with
    | some current => if current.index = index then endFile t current else (t,[])
    | none => (t,[])
  | .error code message => ({t with state:=.error code message},[])
  | .bye => ({t with state:=.done},[])

def handleMessage (t : Transfer) (data : Message) : Transfer × List Effect :=
  match decodeWireEvent code data with
  | none => (t,[])
  | some (.binary buffer) => (receiveChunk t buffer,[])
  | some (.control msg fields) => (readControl msg fields).elim (t,[]) (handleControl t)

def openChannel (optCode : String) : Transfer × List Effect := ({state:=.authenticating},[.auth optCode])

end ImageSearch.WebTransfers
