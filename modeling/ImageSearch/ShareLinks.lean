import ImageSearch.FileStashes
import ImageSearch.PageTransfers
import ImageSearch.SessionIds

namespace ImageSearch.ShareLinks
open Payload Transitions Threads DataChannels WebTransfers PageTransfers
open FileStashes (maxBatchFileCount)
open SessionIds (maxCounter nextCounter hexId)
open SharedStashes hiding handleAuth handleDownload

def sevenDaysMs : Nat := 7 * 24 * 60 * 60 * 1000

-- SessionIdGenerator: the counter in memory and the one on disk, 0 where nothing can be read.
structure Generator where
  current : Nat := 0
  persisted : Nat := 0
  deriving DecidableEq, Repr

structure Share where
  desktop : Nat
  sessionId : String
  optCode : String
  files : List FileEntry
  contents : String → Bytes

inductive CacheStatus where
  | transferring
  | complete
  deriving DecidableEq, Repr

-- Ghost: the share of the link whose visit put the record.
structure SessionRecord where
  status : CacheStatus
  completedAt : Option Nat
  share : Nat
  deriving DecidableEq, Repr

structure FileRecord where
  sessionId : String
  entry : FileEntryInput
  deriving DecidableEq, Repr

-- The two object stores: records under the session id, `ids` their keys, and file records in
-- the order of their automatic keys.
structure Cache where
  sessions : String → Option SessionRecord := fun _ => none
  ids : List String := []
  files : List FileRecord := []

namespace Cache

def putSession (cache : Cache) (sessionId : String) (record : SessionRecord) : Cache :=
  {cache with sessions:=Function.update cache.sessions sessionId (some record),ids:=cache.ids.insert sessionId}

def filesOf (cache : Cache) (sessionId : String) : List FileEntryInput :=
  (cache.files.filter fun record => record.sessionId = sessionId).map (·.entry)

def saveFile (cache : Cache) (sessionId : String) (share : Nat) (entry : FileEntryInput) : Cache :=
  {cache.putSession sessionId ⟨.transferring,none,share⟩ with files:=cache.files ++ [⟨sessionId,entry⟩]}

def completeSession (cache : Cache) (sessionId : String) (share now : Nat) : Cache :=
  cache.putSession sessionId ⟨.complete,some now,share⟩

end Cache

def expired (now : Nat) (record : SessionRecord) : Bool := record.completedAt.any fun completedAt => sevenDaysMs < now - completedAt

namespace Cache

-- The two transactions of cleanExpired: the sessions, and the files of one of them.
def expiredIds (cache : Cache) (now : Nat) : List String := cache.ids.filter fun id => (cache.sessions id).any (expired now)

def deleteExpired (cache : Cache) (now : Nat) : Cache :=
  {cache with
    sessions:=fun id => (cache.sessions id).filter fun record => !expired now record
    ids:=cache.ids.filter fun id => !(cache.sessions id).any (expired now)}

def deleteFiles (cache : Cache) (sessionId : String) : Cache :=
  {cache with files:=cache.files.filter fun record => record.sessionId ≠ sessionId}

end Cache

-- The desktops, each with its trust sessions by their id and the peers that still run, by the
-- share that each serves; and the browser.
structure World where
  generators : Nat → Generator := fun _ => {}
  shares : List Share := []
  registry : Nat → String → Option Nat := fun _ _ => none
  running : Nat → Bool := fun _ => false
  cache : Cache := {}
  now : Nat := 0

-- The page after the cache had nothing for it. `failed` is a setState to an error that no later
-- one has replaced. Ghost: what this visit has saved, and whether one of its saves failed.
structure Online where
  peer : Option Nat := none
  connected : Bool := true
  transfer : Transfer := {}
  failed : Bool := false
  up : List Effect := []
  down : List Frame := []
  writes : List Effect := []
  saved : List FileEntryInput := []
  lost : Bool := false

-- A visit to the link of a share: getCachedSession reads the session, then its files.
inductive Visit where
  | closed
  | checking (share : Nat)
  | listing (share : Nat) (record : SessionRecord)
  | cached (share : Nat) (files : List FileProgress) (manifest : List ManifestFileEntry)
  | online (share : Nat) (page : Online)

inductive Task where
  | visit (visit : Visit)
  | cleaning (expiredIds : Option (List String))

inductive Choice where
  | opens (share : Nat)
  | reads (fails : Bool)
  | connects (peer : Nat)
  | answers (refuses : Bool)
  | hears
  | writes (fails : Bool)
  | fails
  | disconnects
  | cleans
  deriving DecidableEq, Repr

-- verify_opt of the session that is under the share's id now.
def accepts (w : World) (share : Share) (optCode : String) : Bool :=
  ((w.registry share.desktop share.sessionId).bind (w.shares[·]?)).any fun other => other.optCode = optCode

-- What the peer of a share sends for a request; it refuses where the session or the stash is gone.
def answer (w : World) (share : Share) (refuses : Bool) : Effect → List Frame
  | .auth optCode =>
    if !refuses && accepts w share optCode then
      [.authOk (if share.files.any fun file => file.filePath ≠ "" then "file" else "text")]
    else [.authError]
  | .manifest =>
    if refuses then [.error "stash_error" "Stash has expired"]
    else [.manifest ((share.files.zipIdx.map fun file => manifestItem file.1 file.2).map wireItem)]
  | .download index =>
    match share.files[index.toNat]? with
    | some file =>
      if refuses || index < 0 then [.error "download_failed" ("Failed to retrieve file index " ++ toString index)]
      else (sendFile true (.int index) (file.content.elim (share.contents file.filePath) fun content => content.toUTF8.data.toList) file).1
    | none => [.error "download_failed" ("Failed to retrieve file index " ++ toString index)]
  | .bye | .saveFile _ | .completeSession => []

def hear (t : Transfer) : Frame → Transfer × List Effect
  | .authOk payloadType => handleControl t (.authOk payloadType)
  | .authError => handleControl t (.authError "Invalid opt code")
  | .error code message => handleControl t (.error code message)
  | .manifest items => handleControl t (.manifest (items.map seen))
  | .fileStart index contentType filename size _ =>
    (asInt index).elim (t,[]) fun index => handleControl t (.fileStart index contentType filename size)
  | .chunk index offset data => (receiveChunk t (packField index ++ packField offset ++ data),[])
  | .fileEnd index => (asInt index).elim (t,[]) fun index => handleControl t (.fileEnd index)

def isWrite : Effect → Bool
  | .saveFile _ | .completeSession => true
  | _ => false

def byIndex (files : List FileEntryInput) : List FileEntryInput := files.mergeSort fun a b => a.index ≤ b.index

def cachedRow (entry : FileEntryInput) : FileProgress :=
  {index:=entry.index,filename:=some entry.filename,contentType:=entry.contentType,size:=entry.size,received:=entry.size,
    blob:=some entry.blob,status:=.done}

-- Blob.text of a blob that was made of a string: it drops a byte order mark.
def blobText (blob : Bytes) : String :=
  let text := (decodeUtf8 blob).getD ""
  if text.toList.head? = some '\uFEFF' then String.ofList text.toList.tail else text

def cachedEntry (entry : FileEntryInput) : ManifestFileEntry :=
  ⟨entry.index,entry.type,entry.contentType,some entry.size,some entry.filename,
    if entry.type = "text" || entry.type = "link" || entry.type = "html" then some (blobText entry.blob) else none⟩

def write (w : World) (sessionId : String) (share : Nat) (page : Online) (fails : Bool) : Option (World × Online) :=
  match page.writes with
  | .saveFile entry :: rest =>
    if fails then some (w,{page with writes:=rest,lost:=true})
    else some ({w with cache:=w.cache.saveFile sessionId share entry},{page with writes:=rest,saved:=page.saved ++ [entry]})
  | .completeSession :: rest =>
    if fails then some (w,{page with writes:=rest})
    else some ({w with cache:=w.cache.completeSession sessionId share w.now},{page with writes:=rest})
  | _ => none

def stepOnline (w : World) (share : Nat) (link : Share) (page : Online) : Choice → Option (World × Online)
  | .connects peer =>
    if page.peer.isNone && w.running peer && (w.shares[peer]?).any (fun other => other.sessionId = link.sessionId) then
      let start := openChannel link.optCode
      some (w,{page with peer:=some peer,transfer:=start.1,up:=start.2})
    else none
  | .answers refuses =>
    match page.connected,(page.peer.filter w.running).bind (w.shares[·]?),page.up with
    | true,some served,request :: rest => some (w,{page with up:=rest,down:=page.down ++ answer w served refuses request})
    | _,_,_ => none
  | .hears =>
    match page.connected,page.down with
    | true,frame :: rest =>
      let heard := hear page.transfer frame
      some (w,{page with
        transfer:=heard.1
        failed:=page.failed && heard.1.state = page.transfer.state
        down:=rest
        up:=page.up ++ heard.2.filter fun effect => !isWrite effect
        writes:=page.writes ++ heard.2.filter isWrite})
    | _,_ => none
  | .writes fails => write w link.sessionId share page fails
  | .fails => some (w,{page with failed:=true})
  | .disconnects => some (w,{page with connected:=false,failed:=page.failed || page.transfer.state ≠ .done})
  | _ => none

def stepVisit (w : World) (visit : Visit) (choice : Choice) : Option (World × Visit) :=
  match visit,choice with
  | .closed,.opens share => (w.shares[share]?).map fun _ => (w,.checking share)
  | .checking share,.reads fails => (w.shares[share]?).map fun link =>
      match w.cache.sessions link.sessionId,fails with
      | some record,false => if record.status = .complete && expired w.now record then (w,.online share {}) else (w,.listing share record)
      | _,_ => (w,.online share {})
  | .listing share record,.reads fails => (w.shares[share]?).map fun link =>
      if !fails && record.status = .complete then
        let files := byIndex (w.cache.filesOf link.sessionId)
        (w,.cached share (files.map cachedRow) (files.map cachedEntry))
      else (w,.online share {})
  | .online share page,choice => (w.shares[share]?).bind fun link => (stepOnline w share link page choice).map fun next => (next.1,.online share next.2)
  | _,_ => none

def stepTask (w : World) (task : Task) (choice : Choice) : Option (World × Task) :=
  match task,choice with
  | .visit visit,choice => (stepVisit w visit choice).map fun next => (next.1,.visit next.2)
  | .cleaning none,.cleans => some ({w with cache:=w.cache.deleteExpired w.now},.cleaning (some (w.cache.expiredIds w.now)))
  | .cleaning (some (id :: rest)),.cleans => some ({w with cache:=w.cache.deleteFiles id},.cleaning (some rest))
  | _,_ => none

inductive LinkEvent where
  | share (desktop : Nat) (optCode : String) (files : List FileEntry) (contents : String → Bytes) (persists : Bool)
  | restart (desktop : Nat) (lost : Bool)
  | peerDone (peer : Nat)
  | clock (now : Nat)

-- A new session takes the place of an older one of its id; the older peer may still run.
def linkEvent (w : World) : LinkEvent → Option World
  | .share desktop optCode files contents persists =>
    if files = [] || maxBatchFileCount < files.length then none
    else
      let generator := w.generators desktop
      let counter := nextCounter generator.current
      let i := w.shares.length
      some {w with
        generators:=Function.update w.generators desktop ⟨counter,if persists then counter else generator.persisted⟩
        shares:=w.shares ++ [⟨desktop,hexId counter,optCode,files,contents⟩]
        registry:=Function.update w.registry desktop (Function.update (w.registry desktop) (hexId counter) (some i))
        running:=Function.update w.running i true}
  | .restart desktop lost =>
    let generator := w.generators desktop
    let read := if lost then 0 else generator.persisted
    some {w with
      generators:=Function.update w.generators desktop ⟨read,read⟩
      registry:=Function.update w.registry desktop fun _ => none
      running:=fun peer => w.running peer && !(w.shares[peer]?).any fun share => share.desktop = desktop}
  | .peerDone peer => some {w with running:=Function.update w.running peer false}
  | .clock now => some {w with now}

def browserPool (Index : Type*) [DecidableEq Index] : System (Pool Index World Task) (Move Index Choice LinkEvent) :=
  pool stepTask linkEvent

structure Shown where
  index : Int
  type : String
  filename : Option String
  content : Option Bytes
  deriving DecidableEq, Repr

def receiveScreen (files : List FileProgress) (manifest : List ManifestFileEntry) : List Shown :=
  files.filterMap fun f =>
    if f.index < 0 then none
    else (manifest[f.index.toNat]?).map fun entry =>
      ⟨f.index,entry.type,entry.filename,if entry.isInline then entry.content.map fun content => content.toUTF8.data.toList else f.blob⟩

inductive Screen where
  | receiving (shown : List Shown)
  | received (shown : List Shown)
  deriving DecidableEq, Repr

def screen : Visit → Option Screen
  | .cached _ files manifest => some (.received (receiveScreen files manifest))
  | .online _ page =>
    let shown := receiveScreen page.transfer.files (page.transfer.pending.getD [])
    if page.failed then none
    else
      match page.transfer.state with
      | .transferring => some (.receiving shown)
      | .done => some (.received shown)
      | _ => none
  | .closed | .checking _ | .listing _ _ => none

def visited : Visit → Option Nat
  | .closed => none
  | .checking share | .listing share _ | .cached share _ _ | .online share _ => some share

def wholeShown (contents : String → Bytes) (file : FileEntry × Nat) : Shown :=
  ⟨file.2,file.1.entryType,some (if file.1.content.isSome then "" else file.1.filename.getD ""),
    some (file.1.content.elim (contents file.1.filePath) fun content => content.toUTF8.data.toList)⟩

def Share.whole (share : Share) : List Shown := share.files.zipIdx.map (wholeShown share.contents)

def Shows (share : Share) : Screen → Prop
  | .received shown => shown = share.whole
  | .receiving shown => shown = [] ∨ List.Forall₂ (fun now whole => now = whole ∨ now = {whole with content:=none}) shown share.whole

end ImageSearch.ShareLinks
