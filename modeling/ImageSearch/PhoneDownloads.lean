import ImageSearch.WholeFiles

namespace ImageSearch.PhoneDownloads
open Payload Transitions TrustSessions FileStashes DataChannels WebTransfers FileExchanges
open SharedStashes hiding handleAuth handleDownload

-- What transfer_download_file answers: the file with X-Original-Filename, an error of its own,
-- an InstantShareError, or the server's page for an exception.
inductive HttpAnswer where
  | payload (body : Bytes) (contentType : String) (originalFilename : Option String)
  | refused (status : Nat) (message : String)
  | failed (code : ErrorCode)
  | internalError
  deriving DecidableEq, Repr

def errorMessage (fileIndex : Int) (status : Nat) : String :=
  if status = 404 then "Stash not found or source file not accessible"
  else if status = 410 then "Stash expired or source file unavailable"
  else if status = 400 then "File index " ++ toString fileIndex ++ " out of range"
  else "Invalid request"

-- str.encode("latin-1") of a header's value raises UnicodeEncodeError for any other character.
def latin1 (text : String) : Bool := text.toList.all fun c => c.toNat < 256

def transferDownloadFile (fileIndex : Int) : TransferAnswer → HttpAnswer
  | .retrieved (.file bytes contentType filename) =>
    if filename = "" then .payload bytes contentType none
    else if latin1 filename then .payload bytes contentType (some filename)
    else .internalError
  | .retrieved (.refused status) => .refused status (errorMessage fileIndex status)
  | .failed code => .failed code
  | .retrieved (.manifest _) | .delivered | .raised => .internalError

-- The phone: what arrives of a header's value, or none where the response does not; the name
-- without its leading dots; trimmingCharacters; and whether FileManager moves the download to
-- the name. The clock names a file that has no name.
structure Phone where
  carries : String → Option String
  dropDots : String → String
  trim : String → String
  places : String → Bool
  now : Nat

inductive QRClaimResult where
  | html (text : String)
  | link (url : String)
  | text (text : String)
  | image (name contentType : String) (filename : Option String) (stored : Bytes)
  | file (name contentType : String) (filename : Option String) (stored : Bytes)
  deriving DecidableEq, Repr

def QRClaimResult.holds (bytes : Bytes) : QRClaimResult → Prop
  | .html read | .link read | .text read => decodeUtf8 bytes = some read
  | .image _ _ _ stored | .file _ _ _ stored => stored = bytes

def hasPrefix (text start : String) : Bool := start.toList.isPrefixOf text.toList

variable (phone : Phone)

def documentName (filename : Option String) (kind : String) : String :=
  let rawName := filename.getD (kind ++ "_" ++ toString phone.now)
  let dropped := phone.dropDots rawName
  if dropped = "" then rawName else dropped

def persistToDocuments (filename : Option String) (kind : String) : Option String :=
  let fileName := documentName phone filename kind
  if phone.places fileName then some fileName else none

def parseDownloadResponse (body : Bytes) (contentType : String) (filename : Option String) : Option QRClaimResult :=
  let lowercased := contentType.toLower
  if hasPrefix lowercased "text/html" then (decodeUtf8 body).map .html
  else if hasPrefix lowercased "text/uri-list" then (decodeUtf8 body).map fun url => .link (phone.trim url)
  else if hasPrefix lowercased "text/" then (decodeUtf8 body).map .text
  else if hasPrefix lowercased "image/" then
    (persistToDocuments phone filename "image").map fun name => .image name contentType filename body
  else if lowercased = "application/octet-stream" then
    (persistToDocuments phone filename "file").map fun name => .file name contentType filename body
  else none

def downloadFileAtIndex : HttpAnswer → Option QRClaimResult
  | .payload body contentType none => parseDownloadResponse phone body contentType none
  | .payload body contentType (some filename) =>
    (phone.carries filename).bind fun arrived => parseDownloadResponse phone body contentType (some arrived)
  | .refused _ _ | .failed _ | .internalError => none

-- The file's name is empty or arrives as a header, and its text is UTF-8 or the phone has a
-- place for it.
def takesFile (contents : String → Bytes) (file : FileEntry) : Bool :=
  let filename := file.filename.getD ""
  let arrived := if filename = "" then none else phone.carries filename
  (filename = "" || latin1 filename && arrived.isSome) &&
    if hasPrefix file.contentType "text/" then (decodeUtf8 (contents file.filePath)).isSome
    else phone.places (documentName phone arrived (if hasPrefix file.contentType "image/" then "image" else "file"))

variable {phone} {host : Host} {contents : String → Bytes} {file : FileEntry} {fileIndex : Int}

theorem type_kinds : ∀ type ∈ knownTypes, type.toLower = type ∧ hasPrefix type "text/uri-list" = false ∧
    (hasPrefix type "text/html" = true → hasPrefix type "text/" = true) ∧
    (hasPrefix type "text/" = false → hasPrefix type "image/" = false → type = "application/octet-stream") := by
  decide +kernel

theorem parsed_exactly (known : file.contentType ∈ knownTypes) (arrived : Option String) (bytes : Bytes) :
    (∃ result, parseDownloadResponse phone bytes file.contentType arrived = some result ∧ result.holds bytes) ↔
      (if hasPrefix file.contentType "text/" then (decodeUtf8 bytes).isSome
        else phone.places (documentName phone arrived (if hasPrefix file.contentType "image/" then "image" else "file"))) = true := by
  obtain ⟨lower,no_link,html,octets⟩ := type_kinds _ known
  unfold parseDownloadResponse persistToDocuments
  dsimp only
  rw [lower,no_link]
  by_cases text : hasPrefix file.contentType "text/" = true
  · rw [if_pos text,if_pos text,Option.isSome_iff_exists]
    cases decoded : decodeUtf8 bytes with
    | none => by_cases page : hasPrefix file.contentType "text/html" = true <;> simp [page]
    | some written => by_cases page : hasPrefix file.contentType "text/html" = true <;> simp [page,QRClaimResult.holds,decoded]
  · rw [Bool.not_eq_true] at text
    have no_page : hasPrefix file.contentType "text/html" = false := by
      cases page : hasPrefix file.contentType "text/html" with
      | false => rfl
      | true =>
          rw [html page] at text
          cases text
    rw [text,no_page]
    by_cases image : hasPrefix file.contentType "image/" = true
    · simp only [image,Bool.false_eq_true,if_false,if_true]
      by_cases placed : phone.places (documentName phone arrived "image") = true <;> simp [placed,QRClaimResult.holds]
    · rw [Bool.not_eq_true] at image
      simp only [image,Bool.false_eq_true,if_false]
      rw [if_pos (octets text image)]
      by_cases placed : phone.places (documentName phone arrived "file") = true <;> simp [placed,QRClaimResult.holds]

-- The phone gets a file that is served exactly if it can take it.
theorem downloaded_exactly (known : file.contentType ∈ knownTypes) :
    (∃ result, downloadFileAtIndex phone (transferDownloadFile fileIndex
        (.retrieved (.file (contents file.filePath) file.contentType (file.filename.getD "")))) = some result ∧
      result.holds (contents file.filePath)) ↔ takesFile phone contents file = true := by
  unfold transferDownloadFile takesFile
  dsimp only
  rw [Bool.and_eq_true]
  by_cases unnamed : file.filename.getD "" = ""
  · rw [if_pos unnamed,if_pos unnamed]
    simp only [unnamed,decide_true,Bool.true_or,true_and]
    exact parsed_exactly known none _
  · rw [if_neg unnamed,if_neg unnamed]
    simp only [unnamed,decide_false,Bool.false_or]
    by_cases narrow : latin1 (file.filename.getD "") = true
    · rw [if_pos narrow]
      unfold downloadFileAtIndex
      dsimp only
      cases phone.carries (file.filename.getD "") with
      | none => simp
      | some arrived =>
          simp only [narrow,Option.isSome_some,Bool.and_self,true_and]
          exact parsed_exactly known (some arrived) _
    · rw [if_neg narrow]
      simp [downloadFileAtIndex,narrow]

variable (code : PeerCode)

def downloading (request : TransferRequest) : System TransferStage (Desktop × Outside) where
  step stage turn := (stepTransfer code turn.1 request stage turn.2).map Prod.snd

structure Admits (request : TransferRequest) (session : Nat) (stashId : String) (files : List FileEntry) (d : Desktop) : Prop where
  certificate : ∃ certificatePem, d.registry.keychain request.peerDeviceId = some certificatePem ∧
    verifySessionSignature code certificatePem request = true
  registered : d.registry.sessions request.sessionId = some session
  trusted : ∃ object, d.registry.objects session = some object ∧ object.isTrusted = true ∧ object.stashId = some stashId
  stash : ∃ entry, d.stashes (strip stashId) = some entry ∧ entry.files = files ∧ entry.expired = false

structure Serves (contents : String → Bytes) (request : TransferRequest) (session : Nat) (stashId : String) (files : List FileEntry)
    (stage : TransferStage) (turn : Desktop × Outside) : Prop where
  admits : Admits code request session stashId files turn.1
  readable : ∀ certificatePem i id file, stage = .reading certificatePem i id file →
    turn.2.returns = true ∧ turn.2.contents = contents file.filePath

def Downloaded (phone : Phone) (contents : String → Bytes) (fileIndex : Int) (file : FileEntry) (stage : TransferStage) : Prop :=
  ∃ certificatePem i answer, stage = .served certificatePem i answer ∧
    ∃ result, downloadFileAtIndex phone (transferDownloadFile fileIndex answer) = some result ∧ result.holds (contents file.filePath)

inductive Served (contents : String → Bytes) (session : Nat) (stashId : String) (file : FileEntry) : TransferStage → Prop where
  | arrived : Served contents session stashId file .arrived
  | loading : Served contents session stashId file .loading
  | verified {certificatePem} : Served contents session stashId file (.verified certificatePem)
  | found {certificatePem} : Served contents session stashId file (.found certificatePem session)
  | trusted {certificatePem} : Served contents session stashId file (.trusted certificatePem session)
  | reading {certificatePem} : Served contents session stashId file (.reading certificatePem session stashId file)
  | served {certificatePem} : Served contents session stashId file (.served certificatePem session
      (.retrieved (.file (contents file.filePath) file.contentType (file.filename.getD ""))))

def lookupsLeft : TransferStage → Nat
  | .arrived => 6
  | .loading => 5
  | .verified _ | .unregistered _ => 4
  | .found _ _ => 3
  | .trusted _ _ => 2
  | .reading _ _ _ _ => 1
  | .served _ _ _ | .answered _ => 0

section Serving
variable {code} {request : TransferRequest} {session : Nat} {stashId : String} {files : List FileEntry} {stage next : TransferStage}
  {turn : Desktop × Outside} {d : Desktop} {k : Nat}

theorem served_moves (formed : extractSignatureHeaders request = .loading) (kind : request.kind = .download k) (here : files[k]? = some file)
    (on_disk : file.content = none) (serves : Serves code contents request session stashId files stage turn)
    (served : Served contents session stashId file stage) (left : 0 < lookupsLeft stage) :
    ∃ next, (downloading code request).step stage turn = some next ∧ Served contents session stashId file next ∧
      lookupsLeft next < lookupsLeft stage := by
  obtain ⟨⟨⟨certificatePem,certified,signed⟩,registered,⟨object,object_here,isTrusted,object_stash⟩,entry,stashed,same,fresh⟩,readable⟩ := serves
  unfold downloading
  cases served with
  | arrived =>
      refine ⟨.loading,?_,.loading,by decide⟩
      change some (extractSignatureHeaders request) = _
      rw [formed]
  | loading =>
      refine ⟨.verified certificatePem,?_,.verified,Nat.lt_succ_self _⟩
      simp only [stepTransfer,certified,signed,if_true,Option.map_some]
  | verified =>
      rename_i certificatePem'
      refine ⟨.found certificatePem' session,?_,.found,Nat.lt_succ_self _⟩
      simp only [stepTransfer,registered,Option.map_some]
  | found =>
      rename_i certificatePem'
      refine ⟨.trusted certificatePem' session,?_,.trusted,Nat.lt_succ_self _⟩
      simp only [stepTransfer,object_here,isTrusted,if_true,Option.map_some]
  | trusted =>
      rename_i certificatePem'
      have checked := WholeFiles.file_checked here on_disk stashed same fresh
      refine ⟨.reading certificatePem' session stashId file,?_,.reading,Nat.lt_succ_self _⟩
      simp only [stepTransfer,object_here,kind,object_stash,serveStash,checked,Option.map_some]
  | reading =>
      obtain ⟨returns,read⟩ := readable _ _ _ _ rfl
      rename_i certificatePem'
      refine ⟨.served certificatePem' session (.retrieved (.file (contents file.filePath) file.contentType (file.filename.getD ""))),
        ?_,.served,Nat.lt_succ_self _⟩
      simp only [stepTransfer,returns,read,if_true,Option.map_some]
  | served => exact absurd left (Nat.lt_irrefl 0)

theorem served_step (formed : extractSignatureHeaders request = .loading) (kind : request.kind = .download k) (here : files[k]? = some file)
    (on_disk : file.content = none) (serves : Serves code contents request session stashId files stage turn)
    (served : Served contents session stashId file stage) (taken : (downloading code request).step stage turn = some next) :
    Served contents session stashId file next := by
  by_cases left : 0 < lookupsLeft stage
  · obtain ⟨other,moved,later,_⟩ := served_moves formed kind here on_disk serves served left
    obtain rfl := Option.some.inj (taken.symm.trans moved)
    exact later
  · cases served with
    | served => cases taken
    | arrived | loading | verified | found | trusted | reading => exact absurd (Nat.succ_pos _) left

theorem served_ends (formed : extractSignatureHeaders request = .loading) (kind : request.kind = .download k) (here : files[k]? = some file)
    (on_disk : file.content = none) (admits : Admits code request session stashId files d) (left : Nat)
    (count : lookupsLeft stage ≤ left) (served : Served contents session stashId file stage) :
    ∃ last, Reaches (downloading code request) (Serves code contents request session stashId files) stage last ∧
      ∃ certificatePem, last = .served certificatePem session
        (.retrieved (.file (contents file.filePath) file.contentType (file.filename.getD ""))) := by
  induction left generalizing stage with
  | zero =>
      cases served with
      | served => exact ⟨_,reaches_refl,_,rfl⟩
      | arrived | loading | verified | found | trusted | reading => exact absurd count (Nat.not_succ_le_zero _)
  | succ left ih =>
      by_cases some_left : 0 < lookupsLeft stage
      · have serves : Serves code contents request session stashId files stage (d,⟨[],contents file.filePath,true⟩) := by
          refine ⟨admits,?_⟩
          intro certificatePem i id other reading
          cases served with
          | reading =>
              obtain ⟨-,-,-,rfl⟩ := TransferStage.reading.inj reading
              exact ⟨rfl,rfl⟩
          | arrived | loading | verified | found | trusted | served => cases reading
        obtain ⟨next,moved,later,fewer⟩ := served_moves formed kind here on_disk serves served some_left
        obtain ⟨last,path,ended⟩ := ih (by omega) later
        exact ⟨last,reaches_trans (reaches_step reaches_refl serves moved) path,ended⟩
      · exact ih (by omega) served

-- Every run of the request can go on until the phone holds the file exactly if the phone can take it.
theorem request_downloads (formed : extractSignatureHeaders request = .loading) (kind : request.kind = .download k) (here : files[k]? = some file)
    (on_disk : file.content = none) (known : file.contentType ∈ knownTypes) (admits : Admits code request session stashId files d) :
    (∀ stage, Reaches (downloading code request) (Serves code contents request session stashId files) .arrived stage →
      ∃ last, Reaches (downloading code request) (Serves code contents request session stashId files) stage last ∧
        Downloaded phone contents k file last) ↔ takesFile phone contents file = true := by
  have stages {stage : TransferStage} (path : Reaches (downloading code request) (Serves code contents request session stashId files) .arrived stage) :
      Served contents session stashId file stage :=
    reaches_preserves (fun _ _ _ served serves taken => served_step formed kind here on_disk serves served taken) .arrived path
  rw [← downloaded_exactly known]
  constructor
  · intro all
    obtain ⟨last,path,certificatePem,i,answer,rfl,result,received⟩ := all _ reaches_refl
    cases stages path with
    | served => exact ⟨result,received⟩
  · intro taken stage path
    obtain ⟨last,rest,certificatePem,rfl⟩ := served_ends formed kind here on_disk admits _ (Nat.le_refl _) (stages path)
    exact ⟨_,rest,certificatePem,session,_,rfl,taken⟩

end Serving

-- The files of a stash arrive whole at the page exactly if none has more than four GiB, and at
-- the phone exactly if it can take each of them.
theorem files_whole (code : Languages) (peerCode : PeerCode) (phone : Phone) (host : Host) (contents : String → Bytes) {filesRaw : List Json}
    {files : List FileEntry} (made : createFileStash host filesRaw = .ok files) (optCode : String) (speaks : Speaks code contents optCode files)
    {peer : WebRTCPeer} {d : Desktop} (stands : Stands peer optCode files (opened code peer optCode) d)
    {request : TransferRequest} (formed : extractSignatureHeaders request = .loading) {session : Nat} {stashId : String} {d' : Desktop}
    (admits : Admits peerCode request session stashId files d') :
    ((∀ e, Reaches (exchange code contents) (standing peer optCode files) (opened code peer optCode) e →
        Unmistaken code e ∧ Completes code contents optCode files peer e) ↔
      ∀ file ∈ files, (contents file.filePath).length ≤ fieldLimit) ∧
    ((∀ (k : Nat) (file : FileEntry), files[k]? = some file → ∀ stage,
        let asked := {request with kind:=.download k}
        Reaches (downloading peerCode asked) (Serves peerCode contents asked session stashId files) .arrived stage →
          ∃ last, Reaches (downloading peerCode asked) (Serves peerCode contents asked session stashId files) stage last ∧
            Downloaded phone contents k file last) ↔
      ∀ file ∈ files, takesFile phone contents file = true) := by
  have batch := batch_made made
  refine ⟨WholeFiles.channel_whole speaks batch.count batch.on_disk batch.some_file stands,?_⟩
  have each (k : Nat) (file : FileEntry) (here : files[k]? = some file) := by
    have member := List.mem_of_getElem? here
    have known : file.contentType ∈ knownTypes := by
      rw [batch.type file member]
      exact mime_known file.filePath
    have admits : Admits peerCode {request with kind:=.download k} session stashId files d' :=
      ⟨admits.certificate,admits.registered,admits.trusted,admits.stash⟩
    exact @request_downloads phone contents file peerCode {request with kind:=.download k} session stashId files d' k
      formed rfl here (batch.on_disk file member) known admits
  constructor
  · intro all file member
    obtain ⟨k,here⟩ := List.mem_iff_getElem?.mp member
    exact (each k file here).mp (all k file here)
  · intro takes k file here
    exact (each k file here).mpr (takes file (List.mem_of_getElem? here))

def samplePath : String := "/share/a.bin"

def sampleItem (filename : String) : Json := .object [("file_path",.string samplePath),("filename",.string filename)]

def sampleHost : Host := ⟨String.toLower,fun path => path = samplePath,fun _ => some 3⟩

def sampleFile (filename : String) : FileEntry := ⟨samplePath,some filename,"application/octet-stream",3,none⟩

def sampleBytes (path : String) : Bytes := if path = samplePath then [1,2,3] else []

-- json.dumps and JSON.stringify of the messages about "a.bin"; a chunk of its bytes is ASCII.
def sampleDumps (json : Json) : String :=
  match json with
  | .object fields =>
    match textField fields "msg",textField fields "payload_type" with
    | some "auth_ok",some kind => "\x7b\"msg\": \"auth_ok\", \"payload_type\": \"" ++ kind ++ "\"\x7d"
    | some "manifest",_ => "\x7b\"msg\": \"manifest\", \"files\": [\x7b\"index\": 0, \"type\": \"file\", " ++
        "\"content_type\": \"application/octet-stream\", \"filename\": \"a.bin\", \"size_bytes\": 3\x7d]\x7d"
    | some "file_start",_ => "\x7b\"msg\": \"file_start\", \"index\": 0, \"content_type\": \"application/octet-stream\", " ++
        "\"filename\": \"a.bin\", \"size\": 3, \"chunks\": 1\x7d"
    | some "file_end",_ => "\x7b\"msg\": \"file_end\", \"index\": 0\x7d"
    | _,_ => ""
  | _ => ""

def sampleStringify (json : Json) : String :=
  match json with
  | .object fields =>
    match textField fields "msg" with
    | some "auth" => "\x7b\"msg\":\"auth\",\"opt_code\":\"123456\"\x7d"
    | some "manifest" => "\x7b\"msg\":\"manifest\"\x7d"
    | some "bye" => "\x7b\"msg\":\"bye\"\x7d"
    | some "download" => "\x7b\"msg\":\"download\",\"index\":0\x7d"
    | _ => ""
  | _ => ""

def sampleLanguages : Languages where
  loads text := match ((requests "123456" [sampleFile "a.bin"]).filterMap requestJson).find? fun json => sampleStringify json = text with
    | some json => .value json
    | none => .decodeError
  dumps := sampleDumps
  format json := match json with
    | .int value => toString value
    | _ => ""
  floatOutside _ _ := false
  parse text := ((answers sampleBytes [sampleFile "a.bin"]).filterMap frameJson).find? fun json => sampleDumps json ++ "\n\n" = text
  stringify := sampleStringify
  decodeText bytes := String.ofList (bytes.map fun byte => Char.ofNat byte.toNat)

set_option maxRecDepth 4000 in
theorem sample_speaks : Speaks sampleLanguages sampleBytes "123456" [sampleFile "a.bin"] := by
  refine ⟨?_,?_,?_,?_⟩
  · intro effect member json written
    simp only [requests,List.length_cons,List.length_nil,List.range_succ,List.range_zero,List.nil_append,List.map_cons,List.map_nil,
      List.cons_append,List.mem_cons,List.not_mem_nil,or_false] at member
    rcases member with rfl | rfl | rfl | rfl
    · cases written; rfl
    · cases written; rfl
    · cases written; rfl
    · cases written; rfl
  · intro frame member json written
    simp only [answers,List.zipIdx_cons,List.zipIdx_nil,List.flatMap_cons,List.flatMap_nil,List.append_nil,List.cons_append,List.nil_append,
      List.mem_cons,List.not_mem_nil,or_false] at member
    rcases member with rfl | rfl | rfl | rfl | rfl
    · cases written; rfl
    · cases written; rfl
    · cases written; rfl
    · cases written; rfl
    · cases written; rfl
  · intro bytes
    change (String.ofList _).toList.head? = _
    rw [String.toList_ofList]
    rfl
  · intro text nul
    apply List.find?_eq_none.mpr
    intro json member same
    have starts : ((answers sampleBytes [sampleFile "a.bin"]).filterMap frameJson).all
        (fun json => (sampleDumps json ++ "\n\n").toList.head? = some '\x7b') = true := by
      decide +kernel
    rw [← of_decide_eq_true same,of_decide_eq_true (List.all_eq_true.mp starts json member)] at nul
    exact absurd nul (by decide)

def sampleSession : TrustSession where
  sessionId := "1"
  flowType := .pcToMobile
  pcKeyResolver := ⟨0,[7]⟩
  optCode := some "123456"
  stashId := some "stash-1"
  isTrusted := true

def sampleDesktop (filename : String) : Desktop where
  registry := {
    sessions := fun sessionId => if sessionId = "1" then some 0 else none
    objects := fun i => if i = 0 then some sampleSession else none
    keychain := fun deviceId => if deviceId = "phone-1" then some "PEM" else none}
  stashes stashId := if stashId = "stash-1" then some ⟨[sampleFile filename],"123456",0,300,0,3,false,false⟩ else none

def pairedCode : PeerCode := ⟨sampleCode,fun _ => some 7⟩

def sampleRequest : TransferRequest := ⟨.manifest,"1","phone-1",some (some ⟨7,"1"⟩),"ecdsa-sha256"⟩

def samplePhone : Phone where
  carries filename := some filename
  dropDots name := String.ofList (name.toList.dropWhile (· = '.'))
  trim text := String.ofList (stripChars isSpace text.toList)
  places _ := true
  now := 0

theorem sample_made (filename : String) (named : filename ≠ "") :
    createFileStash sampleHost [sampleItem filename] = .ok [sampleFile filename] := by
  have type : detectMime sampleHost samplePath = "application/octet-stream" := by decide +kernel
  have entry : fileEntry sampleHost (sampleItem filename) = .ok (sampleFile filename) := by
    unfold fileEntry sampleItem
    dsimp only [List.lookup]
    change (if samplePath = "" then _ else if sampleHost.isFile samplePath = true then Except.ok (⟨samplePath,if filename = "" then none else some filename,
      detectMime sampleHost samplePath,_,none⟩ : FileEntry) else _) = _
    rw [if_neg (by decide),if_pos (by decide),if_neg named,type]
    rfl
  unfold createFileStash
  have few : ¬maxBatchFileCount < 1 := by decide
  rw [List.length_singleton,if_neg few,if_neg Nat.one_ne_zero,List.mapM_cons,entry]
  rfl

theorem sample_stashed (filename : String) :
    (sampleDesktop filename).stashes (strip "stash-1") = some ⟨[sampleFile filename],"123456",0,300,0,3,false,false⟩ := by
  have stripped : strip "stash-1" = "stash-1" := by decide +kernel
  rw [stripped]
  rfl

theorem sample_admits (filename : String) : Admits pairedCode sampleRequest 0 "stash-1" [sampleFile filename] (sampleDesktop filename) :=
  ⟨⟨"PEM",rfl,by decide +kernel⟩,rfl,⟨sampleSession,rfl,rfl,rfl⟩,⟨_,sample_stashed filename,rfl,rfl⟩⟩

theorem sample_stands : Stands ⟨"1","stash-1",false⟩ "123456" [sampleFile "a.bin"] (opened sampleLanguages ⟨"1","stash-1",false⟩ "123456")
    (sampleDesktop "a.bin") :=
  ⟨fun _ => by decide +kernel,⟨_,sample_stashed "a.bin",rfl,rfl,fun _ => ⟨rfl,by decide⟩⟩⟩

theorem small_file_whole :
    (∀ e, Reaches (exchange sampleLanguages sampleBytes) (standing ⟨"1","stash-1",false⟩ "123456" [sampleFile "a.bin"])
        (opened sampleLanguages ⟨"1","stash-1",false⟩ "123456") e →
      Unmistaken sampleLanguages e ∧ Completes sampleLanguages sampleBytes "123456" [sampleFile "a.bin"] ⟨"1","stash-1",false⟩ e) ∧
    ∀ (k : Nat) (file : FileEntry), [sampleFile "a.bin"][k]? = some file → ∀ stage,
      let asked := {sampleRequest with kind:=.download k}
      Reaches (downloading pairedCode asked) (Serves pairedCode sampleBytes asked 0 "stash-1" [sampleFile "a.bin"]) .arrived stage →
        ∃ last, Reaches (downloading pairedCode asked) (Serves pairedCode sampleBytes asked 0 "stash-1" [sampleFile "a.bin"]) stage last ∧
          Downloaded samplePhone sampleBytes k file last := by
  have whole := files_whole sampleLanguages pairedCode samplePhone sampleHost sampleBytes (sample_made "a.bin" (by decide)) "123456" sample_speaks
    sample_stands (by decide +kernel) (sample_admits "a.bin")
  refine ⟨whole.1.mpr ?_,whole.2.mpr ?_⟩
  · intro file member
    rw [List.mem_singleton.mp member]
    decide
  · intro file member
    rw [List.mem_singleton.mp member]
    decide +kernel

-- A name that is not latin-1 makes the answer an error of the server.
theorem unicode_name_fails : createFileStash sampleHost [sampleItem "报告.bin"] = .ok [sampleFile "报告.bin"] ∧
    Admits pairedCode sampleRequest 0 "stash-1" [sampleFile "报告.bin"] (sampleDesktop "报告.bin") ∧
    ¬∀ (k : Nat) (file : FileEntry), [sampleFile "报告.bin"][k]? = some file → ∀ stage,
      let asked := {sampleRequest with kind:=.download k}
      Reaches (downloading pairedCode asked) (Serves pairedCode sampleBytes asked 0 "stash-1" [sampleFile "报告.bin"]) .arrived stage →
        ∃ last, Reaches (downloading pairedCode asked) (Serves pairedCode sampleBytes asked 0 "stash-1" [sampleFile "报告.bin"]) stage last ∧
          Downloaded samplePhone sampleBytes k file last := by
  refine ⟨sample_made _ (by decide),sample_admits _,?_⟩
  intro all
  have admits : Admits pairedCode {sampleRequest with kind:=.download (0 : Nat)} 0 "stash-1" [sampleFile "报告.bin"] (sampleDesktop "报告.bin") :=
    ⟨(sample_admits _).certificate,(sample_admits _).registered,(sample_admits _).trusted,(sample_admits _).stash⟩
  have takes := (request_downloads (by decide +kernel) rfl rfl rfl (by decide) admits).mp (all 0 (sampleFile "报告.bin") rfl)
  exact absurd takes (by decide +kernel)

end ImageSearch.PhoneDownloads
