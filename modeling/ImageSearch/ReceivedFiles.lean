import ImageSearch.PhoneDownloads

namespace ImageSearch.ReceivedFiles
open Payload Transitions DataChannels PhoneDownloads

def Plain (name : String) : Prop := name ≠ "" ∧ '/' ∉ name.toList ∧ name ≠ "." ∧ name ≠ ".."

instance (name : String) : Decidable (Plain name) :=
  inferInstanceAs (Decidable (name ≠ "" ∧ '/' ∉ name.toList ∧ name ≠ "." ∧ name ≠ ".."))

-- FileManager and URL around the directory QRDownloads: `destination` appends a name to the
-- directory's URL, and a call that throws answers none or false. removeItem may have removed
-- a part of a directory when it throws, and nothing is said of what it leaves.
structure FileManager (Fs Url : Type*) where
  destination : String → Url
  Direct : Url → Prop
  createDirectory : Fs → Option Fs
  fileExists : Fs → Url → Bool
  removeItem : Fs → Url → Fs × Bool
  moveItem : Fs → Bytes → Url → Option Fs
  contents : Fs → Url → Option Bytes
  plain_direct : ∀ name, Plain name → Direct (destination name)
  contents_exist : ∀ fs url bytes, contents fs url = some bytes → fileExists fs url = true
  created_contents : ∀ fs next url, createDirectory fs = some next → contents next url = contents fs url
  created_exists : ∀ fs next name, Plain name → createDirectory fs = some next →
    fileExists next (destination name) = fileExists fs (destination name)
  moved_there : ∀ fs next bytes url, moveItem fs bytes url = some next → contents next url = some bytes
  moved_others : ∀ fs next bytes url, fileExists fs url = false → moveItem fs bytes url = some next →
    ∀ other held, contents fs other = some held → contents next other = some held

inductive DownloadStatus where
  | pending
  | downloading
  | downloaded
  | failed
  deriving DecidableEq, Repr

inductive ClaimResult (Url : Type*) where
  | text (text : String)
  | html (html : String)
  | link (urlString : String)
  | image (fileURL : Url) (contentType : String) (filename : Option String)
  | file (fileURL : Url) (contentType : String) (filename : Option String)

structure FileEntry where
  index : Int
  type : String
  content : Option String

-- `body` is a ghost: the bytes downloaded for the entry.
structure FileDownloadState (Url : Type*) where
  index : Int
  entryType : String
  status : DownloadStatus
  result : Option (ClaimResult Url)
  body : Option Bytes

variable {Fs Url : Type*}

def inlineTypes : List String := ["text","html","link"]

def FileDownloadState.isInline (entry : FileDownloadState Url) : Bool := entry.entryType ∈ inlineTypes

def FileDownloadState.fileURL (entry : FileDownloadState Url) : Option Url :=
  match entry.result with
  | some (.image fileURL _ _) | some (.file fileURL _ _) => some fileURL
  | _ => none

def FileEntry.begin (entry : FileEntry) : FileDownloadState Url where
  index := entry.index
  entryType := entry.type
  status := if entry.type ∈ inlineTypes then .downloaded else .pending
  result := entry.content.bind fun content =>
    if entry.type = "text" then some (.text content)
    else if entry.type = "html" then some (.html content)
    else if entry.type = "link" then some (.link content)
    else none
  body := none

-- What a request of downloadFileAtIndex comes to: an error, also for a status other than 200,
-- or a response at a second of the clock.
inductive Answer where
  | thrown
  | response (contentType filename : Option String) (body : Bytes) (seconds : Nat)

variable (files : FileManager Fs Url) (phone : Phone)

def moveTo (fs : Fs) (body : Bytes) (destURL : Url) : Fs × Option Url :=
  match files.moveItem fs body destURL with
  | none => (fs,none)
  | some next => (next,some destURL)

def persistToDocuments (fs : Fs) (fileName : String) (body : Bytes) : Fs × Option Url :=
  match files.createDirectory fs with
  | none => (fs,none)
  | some fs =>
    let destURL := files.destination fileName
    if files.fileExists fs destURL then
      match files.removeItem fs destURL with
      | (fs,false) => (fs,none)
      | (fs,true) => moveTo files fs body destURL
    else moveTo files fs body destURL

def storedKind (contentType : String) : Option String :=
  let lowercased := contentType.toLower
  if hasPrefix lowercased "text/" then none
  else if hasPrefix lowercased "image/" then some "image"
  else if lowercased = "application/octet-stream" then some "file"
  else none

def fileNameOf (filename : Option String) (kind : String) (seconds : Nat) : String :=
  documentName {phone with now:=seconds} filename kind

def parseDownloadResponse (fs : Fs) : Answer → Fs × Option (ClaimResult Url)
  | .thrown | .response none _ _ _ => (fs,none)
  | .response (some contentType) filename body seconds =>
    let lowercased := contentType.toLower
    if hasPrefix lowercased "text/html" then (fs,(decodeUtf8 body).map .html)
    else if hasPrefix lowercased "text/uri-list" then (fs,(decodeUtf8 body).map fun url => .link (phone.trim url))
    else if hasPrefix lowercased "text/" then (fs,(decodeUtf8 body).map .text)
    else if hasPrefix lowercased "image/" then
      let (fs,fileURL) := persistToDocuments files fs (fileNameOf phone filename "image" seconds) body
      (fs,fileURL.map fun fileURL => .image fileURL contentType filename)
    else if lowercased = "application/octet-stream" then
      let (fs,fileURL) := persistToDocuments files fs (fileNameOf phone filename "file" seconds) body
      (fs,fileURL.map fun fileURL => .file fileURL contentType filename)
    else (fs,none)

def Answer.body : Answer → Option Bytes
  | .thrown => none
  | .response _ _ body _ => some body

def downloadEntry (fs : Fs) (entry : FileDownloadState Url) (answer : Answer) : Fs × FileDownloadState Url :=
  if entry.isInline || entry.status ≠ .pending then (fs,entry)
  else match parseDownloadResponse files phone fs answer with
    | (fs,some result) => (fs,{entry with result:=some result,status:=.downloaded,body:=answer.body})
    | (fs,none) => (fs,{entry with status:=.failed})

-- The entries of all batches so far, one view model's after another's.
structure Receiver (Fs Url : Type*) where
  fs : Fs
  entries : List (FileDownloadState Url)

inductive Step where
  | receive (manifest : List FileEntry)
  | download (i : Nat) (answer : Answer)

def Receiver.step (r : Receiver Fs Url) : Step → Option (Receiver Fs Url)
  | .receive manifest => some {r with entries:=r.entries ++ manifest.map FileEntry.begin}
  | .download i answer => r.entries[i]?.map fun entry =>
    let (fs,entry) := downloadEntry files phone r.fs entry answer
    ⟨fs,r.entries.set i entry⟩

def receiver : System (Receiver Fs Url) Step := ⟨fun r step => r.step files phone step⟩

def Receiver.startDownloadingAll (r : Receiver Fs Url) (indices : List Nat) (answers : Nat → Answer) : Receiver Fs Url :=
  indices.foldl (fun r i => (r.step files phone (.download i (answers i))).getD r) r

def Clean (fs : Fs) : Answer → Prop
  | .response (some contentType) filename _ seconds => match storedKind contentType with
    | some kind => Plain (fileNameOf phone filename kind seconds) ∧
        files.fileExists fs (files.destination (fileNameOf phone filename kind seconds)) = false
    | none => True
  | _ => True

instance (fs : Fs) (answer : Answer) : Decidable (Clean files phone fs answer) :=
  match answer with
  | .thrown | .response none _ _ _ => isTrue trivial
  | .response (some contentType) filename body seconds =>
    match known : storedKind contentType with
    | none => isTrue (by simp [Clean,known])
    | some kind => decidable_of_iff (Plain (fileNameOf phone filename kind seconds) ∧
        files.fileExists fs (files.destination (fileNameOf phone filename kind seconds)) = false) (by simp [Clean,known])

def Admits (r : Receiver Fs Url) : Step → Prop
  | .receive _ => True
  | .download i answer => ∀ entry ∈ r.entries[i]?, entry.isInline = false → entry.status = .pending →
    Clean files phone r.fs answer

instance (r : Receiver Fs Url) (step : Step) : Decidable (Admits files phone r step) :=
  match step with
  | .receive _ => isTrue trivial
  | .download i answer =>
    match known : r.entries[i]? with
    | none => isTrue (by simp [Admits,known])
    | some entry => decidable_of_iff (entry.isInline = false → entry.status = .pending → Clean files phone r.fs answer)
        (by simp [Admits,known])

variable {files phone}

def Frame (files : FileManager Fs Url) (before after : Fs) : Prop :=
  ∀ url bytes, files.contents before url = some bytes → files.contents after url = some bytes

theorem frame_trans {one two three : Fs} (first : Frame files one two) (second : Frame files two three) :
    Frame files one three := fun url bytes held => second url bytes (first url bytes held)

theorem created_frame {fs next : Fs} (created : files.createDirectory fs = some next) : Frame files fs next := by
  intro url bytes held
  rw [files.created_contents fs next url created]
  exact held

-- What storing comes to: nothing is lost, and a file that is stored lies directly in the
-- directory, at a URL that had no file.
structure Stored (files : FileManager Fs Url) (before after : Fs) (fileURL : Option Url) (body : Option Bytes) : Prop where
  frame : Frame files before after
  placed : ∀ url, fileURL = some url →
    files.Direct url ∧ files.contents before url = none ∧ ∃ bytes, body = some bytes ∧ files.contents after url = some bytes

theorem stored_nothing {fs : Fs} {body : Option Bytes} : Stored files fs fs none body :=
  ⟨fun _ _ held => held,fun _ placed => by cases placed⟩

theorem persist_stored {fs : Fs} {fileName : String} {body : Bytes} (plain : Plain fileName)
    (fresh : files.fileExists fs (files.destination fileName) = false) :
    Stored files fs (persistToDocuments files fs fileName body).1 (persistToDocuments files fs fileName body).2 (some body) := by
  have empty : files.contents fs (files.destination fileName) = none := by
    cases held : files.contents fs (files.destination fileName) with
    | none => rfl
    | some bytes => cases fresh.symm.trans (files.contents_exist _ _ _ held)
  unfold persistToDocuments
  cases created : files.createDirectory fs with
  | none => exact stored_nothing
  | some middle =>
      have still : files.fileExists middle (files.destination fileName) = false :=
        (files.created_exists fs middle fileName plain created).trans fresh
      dsimp only
      rw [if_neg (by simp [still])]
      unfold moveTo
      cases moved : files.moveItem middle body (files.destination fileName) with
      | none => exact ⟨created_frame created,fun _ placed => by cases placed⟩
      | some next =>
          refine ⟨frame_trans (created_frame created) (files.moved_others _ _ _ _ still moved),?_⟩
          rintro url ⟨⟩
          exact ⟨files.plain_direct _ plain,empty,body,rfl,files.moved_there _ _ _ _ moved⟩

def ClaimResult.fileURL : ClaimResult Url → Option Url
  | .image fileURL _ _ | .file fileURL _ _ => some fileURL
  | _ => none

theorem result_url (entry : FileDownloadState Url) : entry.fileURL = entry.result.bind ClaimResult.fileURL := by
  unfold FileDownloadState.fileURL
  cases entry.result with
  | none => rfl
  | some result => cases result <;> rfl

theorem unplaced_text {body : Bytes} (make : String → ClaimResult Url) (textual : ∀ text, (make text).fileURL = none) :
    ((decodeUtf8 body).map make).bind ClaimResult.fileURL = none := by
  cases decodeUtf8 body with
  | none => rfl
  | some text => exact textual text

theorem parse_stored {fs : Fs} {answer : Answer} (clean : Clean files phone fs answer) :
    Stored files fs (parseDownloadResponse files phone fs answer).1
      ((parseDownloadResponse files phone fs answer).2.bind ClaimResult.fileURL) answer.body := by
  match answer with
  | .thrown => exact stored_nothing
  | .response none _ _ _ => exact stored_nothing
  | .response (some contentType) filename body seconds =>
      simp only [parseDownloadResponse]
      split
      · rw [unplaced_text _ fun _ => rfl]
        exact stored_nothing
      · split
        · cases decodeUtf8 body <;> exact stored_nothing
        · split
          · rw [unplaced_text _ fun _ => rfl]
            exact stored_nothing
          · rename_i untextual
            split
            · rename_i image
              have kind : storedKind contentType = some "image" := by
                unfold storedKind
                rw [if_neg untextual,if_pos image]
              simp only [Clean,kind] at clean
              obtain ⟨plain,fresh⟩ := clean
              have stored := @persist_stored Fs Url files fs _ body plain fresh
              cases placed : (persistToDocuments files fs (fileNameOf phone filename "image" seconds) body).2 with
              | none => rw [placed] at stored; exact stored
              | some url => rw [placed] at stored; exact stored
            · rename_i unseen
              split
              · rename_i octets
                have kind : storedKind contentType = some "file" := by
                  unfold storedKind
                  rw [if_neg untextual,if_neg unseen,if_pos octets]
                simp only [Clean,kind] at clean
                obtain ⟨plain,fresh⟩ := clean
                have stored := @persist_stored Fs Url files fs _ body plain fresh
                cases placed : (persistToDocuments files fs (fileNameOf phone filename "file" seconds) body).2 with
                | none => rw [placed] at stored; exact stored
                | some url => rw [placed] at stored; exact stored
              · exact stored_nothing

variable {r next : Receiver Fs Url} {start : Fs} {i j : Nat} {entry other : FileDownloadState Url} {answer : Answer} {url : Url}

theorem begun_unplaced (manifested : FileEntry) : (manifested.begin : FileDownloadState Url).fileURL = none := by
  rw [result_url]
  unfold FileEntry.begin
  cases manifested.content with
  | none => rfl
  | some content =>
      simp only [Option.bind_some]
      split
      · rfl
      · split
        · rfl
        · split
          · rfl
          · rfl

theorem entry_stored (admitted : Admits files phone r (.download i answer)) (found : r.entries[i]? = some entry)
    (waiting : ¬(entry.isInline || entry.status ≠ .pending) = true) (unplaced : entry.fileURL = none) :
    Stored files r.fs (downloadEntry files phone r.fs entry answer).1 (downloadEntry files phone r.fs entry answer).2.fileURL
      (downloadEntry files phone r.fs entry answer).2.body := by
  have waits : entry.isInline = false ∧ entry.status = .pending := by simpa using waiting
  have stored := @parse_stored Fs Url files phone r.fs answer (admitted entry found waits.1 waits.2)
  unfold downloadEntry
  rw [if_neg waiting]
  cases parsed : parseDownloadResponse files phone r.fs answer with
  | mk fs result =>
      rw [parsed] at stored
      cases result with
      | none =>
          refine ⟨stored.frame,fun url placed => ?_⟩
          exact absurd (unplaced.symm.trans placed) (by simp)
      | some result =>
          refine ⟨stored.frame,fun url placed => ?_⟩
          rw [result_url] at placed
          exact stored.placed url placed

structure Kept (files : FileManager Fs Url) (start : Fs) (r : Receiver Fs Url) : Prop where
  frame : Frame files start r.fs
  unplaced : ∀ (i : Nat) entry, r.entries[i]? = some entry → entry.status = .pending → entry.fileURL = none
  placed : ∀ (i : Nat) entry url, r.entries[i]? = some entry → entry.fileURL = some url →
    files.Direct url ∧ ∃ bytes, entry.body = some bytes ∧ files.contents r.fs url = some bytes
  distinct : ∀ (i j : Nat) one two url, r.entries[i]? = some one → r.entries[j]? = some two →
    one.fileURL = some url → two.fileURL = some url → i = j

theorem kept_start : Kept files start ⟨start,[]⟩ where
  frame _ _ held := held
  unplaced i entry found := by simp at found
  placed i entry url found := by simp at found
  distinct i j one two url found := by simp at found

theorem kept_receive {manifest : List FileEntry} (kept : Kept files start r) :
    Kept files start {r with entries:=r.entries ++ manifest.map FileEntry.begin} := by
  -- An entry with a URL is an old one.
  have old (i : Nat) (entry : FileDownloadState Url) (found : (r.entries ++ manifest.map FileEntry.begin)[i]? = some entry) :
      r.entries[i]? = some entry ∨ entry.fileURL = none := by
    rcases Nat.lt_or_ge i r.entries.length with inside | beyond
    · rw [List.getElem?_append_left inside] at found
      exact .inl found
    · rw [List.getElem?_append_right beyond,List.getElem?_map] at found
      obtain ⟨manifested,-,rfl⟩ := Option.map_eq_some_iff.mp found
      exact .inr (begun_unplaced manifested)
  have placedOld (i : Nat) (entry : FileDownloadState Url) (url : Url)
      (found : (r.entries ++ manifest.map FileEntry.begin)[i]? = some entry) (placed : entry.fileURL = some url) :
      r.entries[i]? = some entry := by
    rcases old i entry found with before | unplaced
    · exact before
    · cases unplaced.symm.trans placed
  refine ⟨kept.frame,?_,?_,?_⟩
  · intro i entry found pending
    rcases old i entry found with before | unplaced
    · exact kept.unplaced i entry before pending
    · exact unplaced
  · intro i entry url found placed
    exact kept.placed i entry url (placedOld i entry url found placed) placed
  · intro i j one two url first second placed placed'
    exact kept.distinct i j one two url (placedOld i one url first placed) (placedOld j two url second placed') placed placed'

theorem kept_download (kept : Kept files start r) (found : r.entries[i]? = some entry)
    (admitted : Admits files phone r (.download i answer)) :
    Kept files start ⟨(downloadEntry files phone r.fs entry answer).1,
      r.entries.set i (downloadEntry files phone r.fs entry answer).2⟩ := by
  have inside : i < r.entries.length := (List.getElem?_eq_some_iff.mp found).1
  by_cases skipped : (entry.isInline || entry.status ≠ .pending) = true
  · have same : downloadEntry files phone r.fs entry answer = (r.fs,entry) := by
      unfold downloadEntry
      rw [if_pos skipped]
    have unchanged : r.entries.set i entry = r.entries := by
      obtain ⟨_,rfl⟩ := List.getElem?_eq_some_iff.mp found
      exact List.set_getElem_self _
    rw [same]
    dsimp only
    rw [unchanged]
    exact kept
  · have pending : entry.status = .pending := by
      have waits : entry.isInline = false ∧ entry.status = .pending := by simpa using skipped
      exact waits.2
    have stored := entry_stored admitted found skipped (kept.unplaced i entry found pending)
    have settled : (downloadEntry files phone r.fs entry answer).2.status ≠ .pending := by
      unfold downloadEntry
      rw [if_neg skipped]
      split
      · simp
      · simp
    generalize downloadEntry files phone r.fs entry answer = done at stored settled
    -- What is at another place is an old entry, and its file is not the one stored now.
    have elsewhere (j : Nat) (apart : j ≠ i) : (r.entries.set i done.2)[j]? = r.entries[j]? := List.getElem?_set_ne apart.symm
    have here : (r.entries.set i done.2)[i]? = some done.2 := List.getElem?_set_self inside
    have fresh (j : Nat) (other : FileDownloadState Url) (url : Url) (before : r.entries[j]? = some other)
        (placed : other.fileURL = some url) (placed' : done.2.fileURL = some url) : False := by
      obtain ⟨-,bytes,-,held⟩ := kept.placed j other url before placed
      cases held.symm.trans (stored.placed url placed').2.1
    refine ⟨frame_trans kept.frame stored.frame,?_,?_,?_⟩
    · intro j other known waits
      by_cases apart : j = i
      · rw [apart,here] at known
        cases known
        exact absurd waits settled
      · rw [elsewhere j apart] at known
        exact kept.unplaced j other known waits
    · intro j other url known placed
      by_cases apart : j = i
      · rw [apart,here] at known
        cases known
        obtain ⟨direct,-,bytes,downloaded,held⟩ := stored.placed url placed
        exact ⟨direct,bytes,downloaded,held⟩
      · rw [elsewhere j apart] at known
        obtain ⟨direct,bytes,downloaded,held⟩ := kept.placed j other url known placed
        exact ⟨direct,bytes,downloaded,stored.frame url bytes held⟩
    · intro j k one two url first second placed placed'
      by_cases atFirst : j = i
      · by_cases atSecond : k = i
        · rw [atFirst,atSecond]
        · rw [atFirst,here] at first
          rw [elsewhere k atSecond] at second
          cases first
          exact absurd (fresh k two url second placed' placed) id
      · rw [elsewhere j atFirst] at first
        by_cases atSecond : k = i
        · rw [atSecond,here] at second
          cases second
          exact absurd (fresh j one url first placed placed') id
        · rw [elsewhere k atSecond] at second
          exact kept.distinct j k one two url first second placed placed'

theorem kept_step {step : Step} (kept : Kept files start r) (admitted : Admits files phone r step)
    (taken : (receiver files phone).step r step = some next) : Kept files start next := by
  cases step with
  | receive manifest =>
      cases taken
      exact kept_receive kept
  | download i answer =>
      obtain ⟨entry,found,rfl⟩ := Option.map_eq_some_iff.mp taken
      exact kept_download kept found admitted

theorem downloading_reaches (indices : List Nat) (answers : Nat → Answer) :
    Reachable (receiver files phone) r (r.startDownloadingAll files phone indices answers) := by
  induction indices generalizing r with
  | nil => exact reaches_refl
  | cons i indices ih =>
      have turn : Reachable (receiver files phone) r ((r.step files phone (.download i (answers i))).getD r) := by
        cases taken : r.step files phone (.download i (answers i)) with
        | none => exact reaches_refl
        | some next =>
            have step : (receiver files phone).step r (.download i (answers i)) = some next := taken
            exact reaches_step reaches_refl trivial step
      exact reaches_trans turn ih

-- Every downloaded file lies in the directory under a URL of its own and holds what was
-- downloaded for its entry, and every file there was is there still.
theorem batches_kept (files : FileManager Fs Url) (phone : Phone) (start : Fs) (r : Receiver Fs Url)
    (path : Reaches (receiver files phone) (Admits files phone) ⟨start,[]⟩ r) :
    (∀ (i : Nat) entry url, r.entries[i]? = some entry → entry.fileURL = some url →
      files.Direct url ∧ ∃ bytes, entry.body = some bytes ∧ files.contents r.fs url = some bytes) ∧
    (∀ (i j : Nat) one two url, r.entries[i]? = some one → r.entries[j]? = some two →
      one.fileURL = some url → two.fileURL = some url → i = j) ∧
    ∀ url bytes, files.contents start url = some bytes → files.contents r.fs url = some bytes := by
  have kept : Kept files start r :=
    reaches_preserves (fun _ _ _ kept admitted taken => kept_step kept admitted taken) kept_start path
  exact ⟨kept.placed,kept.distinct,kept.frame⟩

def flatDirectory : FileManager (String → Option Bytes) String where
  destination name := name
  Direct := Plain
  createDirectory fs := some fs
  fileExists fs name := (fs name).isSome || decide (name ∈ ["",".",".."])
  removeItem fs name :=
    if name = ".." then (fs,false)
    else if name ∈ ["","."] then (fun _ => none,true)
    else (Function.update fs name none,true)
  moveItem fs bytes name := if Plain name ∧ fs name = none then some (Function.update fs name (some bytes)) else none
  contents fs name := fs name
  plain_direct _ plain := plain
  contents_exist fs name bytes held := by simp [held]
  created_contents fs next name created := by cases created; rfl
  created_exists fs next name _ created := by cases created; rfl
  moved_there fs next bytes name moved := by
    split at moved
    · cases moved
      exact Function.update_self ..
    · cases moved
  moved_others fs next bytes name _ moved other held known := by
    split at moved
    · rename_i free
      cases moved
      have apart : other ≠ name := by
        rintro rfl
        cases free.2.symm.trans known
      rw [Function.update_of_ne apart]
      exact known
    · cases moved

def photo (body : Bytes) (filename : String) : Answer := .response (some "image/jpeg") (some filename) body 0

def twoFiles : List FileEntry := [⟨0,"file",none⟩,⟨1,"file",none⟩]

theorem batches_kept_apart : ∃ r : Receiver (String → Option Bytes) String,
    Reaches (receiver flatDirectory samplePhone) (Admits flatDirectory samplePhone) ⟨fun _ => none,[]⟩ r ∧
    r.entries.map FileDownloadState.fileURL = [some "a.jpg",some "b.jpg"] ∧
    r.entries.map FileDownloadState.body = [some [1],some [2]] ∧ r.fs "a.jpg" = some [1] ∧ r.fs "b.jpg" = some [2] := by
  obtain ⟨r,path,seen⟩ := checkedRun_exhibits (receiver flatDirectory samplePhone) (Admits flatDirectory samplePhone)
    ⟨fun _ => none,[]⟩ [.receive twoFiles,.download 0 (photo [1] "a.jpg"),.download 1 (photo [2] ".b.jpg")]
    (fun r => decide (r.entries.map FileDownloadState.fileURL = [some "a.jpg",some "b.jpg"] ∧
      r.entries.map FileDownloadState.body = [some [1],some [2]])) (by decide +kernel)
  obtain ⟨urls,bodies⟩ := of_decide_eq_true seen
  obtain ⟨placed,-⟩ := batches_kept flatDirectory samplePhone _ r path
  have held (i : Nat) (url : String) (body : Bytes) (atURL : (r.entries.map FileDownloadState.fileURL)[i]? = some (some url))
      (downloaded : (r.entries.map FileDownloadState.body)[i]? = some (some body)) : r.fs url = some body := by
    rw [List.getElem?_map] at atURL downloaded
    obtain ⟨entry,found,there⟩ := Option.map_eq_some_iff.mp atURL
    rw [found] at downloaded
    obtain ⟨-,bytes,whole,stored⟩ := placed i entry url found there
    cases (Option.some.inj downloaded).symm.trans whole
    exact stored
  exact ⟨r,path,urls,bodies,held 0 _ _ (by rw [urls]; rfl) (by rw [bodies]; rfl),held 1 _ _ (by rw [urls]; rfl) (by rw [bodies]; rfl)⟩

-- Two files with one name: the second takes the first one's place and URL.
theorem same_name_replaced : ¬ ∀ r : Receiver (String → Option Bytes) String,
    Reachable (receiver flatDirectory samplePhone) ⟨fun _ => none,[]⟩ r → ∀ (i j : Nat) one two url,
    r.entries[i]? = some one → r.entries[j]? = some two → one.fileURL = some url → two.fileURL = some url → i = j := by
  intro all
  obtain ⟨r,path,seen⟩ := checkedRun_exhibits (receiver flatDirectory samplePhone) (fun _ _ => True)
    ⟨fun _ => none,[]⟩ [.receive twoFiles,.download 0 (photo [1] "a.jpg"),.download 1 (photo [2] "a.jpg")]
    (fun r => decide (r.entries.map FileDownloadState.fileURL = [some "a.jpg",some "a.jpg"])) (by decide +kernel)
  have urls := of_decide_eq_true seen
  have first : (r.entries.map FileDownloadState.fileURL)[0]? = some (some "a.jpg") := by rw [urls]; rfl
  have second : (r.entries.map FileDownloadState.fileURL)[1]? = some (some "a.jpg") := by rw [urls]; rfl
  rw [List.getElem?_map] at first second
  obtain ⟨one,foundOne,placedOne⟩ := Option.map_eq_some_iff.mp first
  obtain ⟨two,foundTwo,placedTwo⟩ := Option.map_eq_some_iff.mp second
  exact absurd (all r path 0 1 one two "a.jpg" foundOne foundTwo placedOne placedTwo) (by decide)

end ImageSearch.ReceivedFiles
