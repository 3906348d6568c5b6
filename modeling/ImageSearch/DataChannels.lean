import ImageSearch.SharedStashes

namespace ImageSearch.DataChannels
open Payload SharedStashes

def maxMessageSize : Nat := 16 * 1024

-- What an unsigned field of four bytes cannot hold.
def fieldLimit : Nat := 2 ^ 32

-- json.loads of a str: JSONDecodeError is caught; the RecursionError of a deep text and the
-- ValueError of an integer with too many digits are not.
inductive Loaded where
  | value (json : Json)
  | decodeError
  | raised

structure Python where
  loads : String → Loaded
  dumps : Json → String
  -- f"{value}"
  format : Json → String
  -- value < 0 or value >= size, of a float
  floatOutside : String → Nat → Bool

inductive Message where
  | text (value : String)
  | binary (bytes : Bytes)
  deriving DecidableEq, Repr

-- What WebRTCPeer sends. The index of a file is the one that was asked for.
inductive Frame where
  | authOk (payloadType : String)
  | authError
  | error (code message : String)
  | manifest (files : List ManifestItem)
  | fileStart (index : Json) (contentType filename : String) (size chunks : Nat)
  | chunk (index offset : Nat) (data : Bytes)
  | fileEnd (index : Json)

def Frame.carriesData : Frame → Bool
  | .manifest _ | .fileStart _ _ _ _ _ | .chunk _ _ _ | .fileEnd _ => true
  | _ => false

-- What becomes of the file on disk: Path.exists lets an error of the directory through, the
-- errors of open and read are caught.
inductive Disk where
  | probeRaised
  | unreadable
  | holds (bytes : Bytes)
  deriving DecidableEq, Repr

structure Surroundings where
  desktop : Desktop
  channelOpen : Bool
  disk : Disk

structure Handled where
  desktop : Desktop
  peer : WebRTCPeer
  sent : List Frame
  raised : Bool := false

def decodeUtf8 (bytes : Bytes) : Option String := String.fromUTF8? ⟨bytes.toArray⟩

def rstripNewlines (text : String) : String := String.ofList (text.toList.reverse.dropWhile (· = '\n')).reverse

variable (py : Python)

def readControlMessage (message : Message) : Loaded :=
  match message with
  | .text value => py.loads (rstripNewlines value)
  | .binary bytes =>
    match decodeUtf8 bytes with
    | some text => py.loads (rstripNewlines text)
    | none => .raised

def estimateChunkCount (size : Nat) : Nat :=
  if size ≤ maxMessageSize then 1 else (size + maxMessageSize - 1) / maxMessageSize

-- `ok` is that _send_control finds the channel open.
def sendControl (ok : Bool) (frame : Frame) : List Frame := if ok then [frame] else []

def asInt : Json → Option Int
  | .int value => some value
  | .bool value => some (if value then 1 else 0)
  | _ => none

-- none where the comparison with 0 or the subscript raises TypeError.
def checkIndex (d : Desktop) (stashId : String) (index : Json) : Option FileStep :=
  match asInt index with
  | some fileIndex => some (checkStashFile d stashId fileIndex)
  | none =>
    match d.stashes (strip stashId) with
    | none => some (.refused 404)
    | some entry =>
      if entry.expired then some (.refused 410)
      else if entry.files = [] then some (.refused 400)
      else
        match index with
        | .float text => if py.floatOutside text entry.files.length then some (.refused 400) else none
        | _ => none

-- struct.pack("!II", index, offset) raises for what does not fit; the header is packed before
-- the channel is looked at.
def sendChunks (channelOpen : Bool) (index : Nat) (bytes : Bytes) : Nat → Nat → List Frame × Bool
  | 0,_ => ([],false)
  | chunks + 1,offset =>
    if fieldLimit ≤ index ∨ fieldLimit ≤ offset then ([],true)
    else if channelOpen then
      let data := (bytes.drop offset).take maxMessageSize
      let rest := sendChunks channelOpen index bytes chunks (offset + data.length)
      (.chunk index offset data :: rest.1,rest.2)
    else ([],false)

def sendFile (channelOpen : Bool) (index : Json) (bytes : Bytes) (file : FileEntry) : List Frame × Bool :=
  let totalChunks := estimateChunkCount bytes.length
  let chunks := sendChunks channelOpen ((asInt index).getD 0).toNat bytes totalChunks 0
  let start := sendControl channelOpen (.fileStart index file.contentType (file.filename.getD "") bytes.length totalChunks)
  if chunks.2 then (start ++ chunks.1,true)
  else (start ++ chunks.1 ++ sendControl channelOpen (.fileEnd index),false)

def stashError (d : Desktop) (stashId : String) : String :=
  match d.stashes (strip stashId) with
  | none => "Stash not found"
  | some entry =>
    if entry.expired then "Stash has expired"
    else if entry.claimed then "Stash already claimed"
    else if entry.expiresAt < d.clock then "Stash has expired"
    else "Invalid stash state"

def wireItem (item : ManifestItem) : ManifestItem := {item with sizeBytes:=item.content.elim item.sizeBytes String.length}

def verifies (d : Desktop) (sessionId : String) (optCode : Json) : Bool :=
  ((d.registry.sessions sessionId).bind d.registry.objects).any fun session =>
    match optCode with
    | .string optCode => session.verifyOpt optCode
    | _ => false

def payloadType (d : Desktop) (stashId : String) : String :=
  if (d.stashes stashId).any fun entry => entry.files.any fun file => file.filePath ≠ "" then "file" else "text"

def handleAuth (s : Surroundings) (peer : WebRTCPeer) (fields : Fields) : Handled :=
  if verifies s.desktop peer.sessionId ((fields.lookup "opt_code").getD (.string "")) then
    ⟨s.desktop,{peer with authenticated:=true},sendControl s.channelOpen (.authOk (payloadType s.desktop peer.stashId)),false⟩
  else ⟨s.desktop,peer,sendControl s.channelOpen .authError,false⟩

def authRequired (s : Surroundings) (peer : WebRTCPeer) : Handled :=
  ⟨s.desktop,peer,sendControl s.channelOpen (.error "auth_required" "Authenticate first"),false⟩

def handleManifest (s : Surroundings) (peer : WebRTCPeer) : Handled :=
  if peer.authenticated then
    match retrieveStashContent s.desktop peer.stashId with
    | (d,.manifest files) => ⟨d,peer,sendControl s.channelOpen (.manifest (files.map wireItem)),false⟩
    | (d,_) => ⟨d,peer,sendControl s.channelOpen (.error "stash_error" (stashError s.desktop peer.stashId)),false⟩
  else authRequired s peer

def handleDownload (s : Surroundings) (peer : WebRTCPeer) (fields : Fields) : Handled :=
  let index := (fields.lookup "index").getD (.int 0)
  if peer.authenticated then
    let failed := sendControl s.channelOpen (.error "download_failed" ("Failed to retrieve file index " ++ py.format index))
    match checkIndex py s.desktop peer.stashId index with
    | none => ⟨s.desktop,peer,[],true⟩
    | some (.refused _) => ⟨s.desktop,peer,failed,false⟩
    | some (.inline content file) =>
      let result := sendFile s.channelOpen index content.toUTF8.data.toList file
      ⟨claimStash s.desktop peer.stashId,peer,result.1,result.2⟩
    | some (.reading file) =>
      match s.disk with
      | .probeRaised => ⟨s.desktop,peer,[],true⟩
      | .unreadable => ⟨loseStash s.desktop peer.stashId,peer,failed,false⟩
      | .holds bytes =>
        let result := sendFile s.channelOpen index bytes file
        ⟨claimStash s.desktop peer.stashId,peer,result.1,result.2⟩
  else authRequired s peer

def onMessage (s : Surroundings) (peer : WebRTCPeer) (message : Message) : Handled :=
  match readControlMessage py message with
  | .raised => ⟨s.desktop,peer,[],true⟩
  | .decodeError | .value .null => ⟨s.desktop,peer,[],false⟩
  | .value (.object fields) =>
    match fields.lookup "msg" with
    | some (.string "auth") => handleAuth s peer fields
    | some (.string "manifest") => handleManifest s peer
    | some (.string "download") => handleDownload py s peer fields
    | _ => ⟨s.desktop,peer,[],false⟩
  -- ctrl.get on a list, a string, a number or a bool
  | .value _ => ⟨s.desktop,peer,[],true⟩

end ImageSearch.DataChannels
