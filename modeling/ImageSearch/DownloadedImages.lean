import ImageSearch.PathNames
import ImageSearch.ShareSessions

namespace ImageSearch.DownloadedImages
open Payload BackupFolder PathNames Transitions Threads ShareSessions

-- What (downloads_dir / name).resolve() makes of a symbolic link.
inductive Resolved where
  | child (name : String)
  | itself
  | below
  | escapes
  | loops
  deriving DecidableEq, Repr

-- The links do not change. What a link resolves to is no link.
structure Links where
  target : String → Option Resolved
  single : ∀ name other, target name = some (.child other) → SingleName other.toList
  settled : ∀ name other, target name = some (.child other) → target other = none

def Links.resolve (links : Links) (name : String) : Resolved := (links.target name).getD (.child name)

structure ImagePayload where
  payloadClass : PayloadClass
  filename : Option String
  contentType : String
  imageBytes : Bytes
  temporary : Bool
  deriving DecidableEq, Repr

-- The regular files of the directory by name; nothing else is written.
structure Downloads where
  links : Links
  dirName : List Char
  plain : '/' ∉ dirName
  files : String → Option Bytes

def inferExtension (contentType : String) : String :=
  let normalizedContentType := (strip contentType).toLower
  if normalizedContentType = "image/png" then ".png"
  else if normalizedContentType = "image/jpeg" || normalizedContentType = "image/jpg" then ".jpg"
  else if normalizedContentType = "image/webp" then ".webp"
  else ".bin"

def isUnsafe (c : Char) : Bool :=
  !(('A' ≤ c && c ≤ 'Z') || ('a' ≤ c && c ≤ 'z') || ('0' ≤ c && c ≤ '9') || c == '.' || c == '_' || c == '-')

def sanitizeFilename (filename : List Char) : List Char :=
  let sanitized := stripChars (fun c => c == '-' || c == '.') (substituteRuns isUnsafe '-' false filename)
  if sanitized = [] then "instant-share-image.bin".toList else sanitized

-- none where it raises.
local instance (priority := 2000) lawfulParts : LawfulBEq (List Char) := inferInstance

def resolveFilename (payload : ImagePayload) : Option (List Char) :=
  if payload.payloadClass ≠ .image then none
  else
    let given := (payload.filename.filter fun filename => strip filename ≠ "").map strip
    let filename := (given.getD ("instant-share-image" ++ inferExtension payload.contentType)).toList
    if filename.head? = some '/' || ['.','.'] ∈ filename.splitOn '/' then none
    else some (sanitizeFilename (pathName filename))

def numberedName (stem suffix : List Char) (index : Nat) : String := String.ofList (stem ++ '-' :: (toString index).toList ++ suffix)

-- One call of deliver_image: the tests of candidates, the creation of the file, the writes,
-- and after a copy the transfer of its times. `none` is a path whose directory is not there.
inductive Delivery where
  | arrived (payload : ImagePayload)
  | probing (payload : ImagePayload) (filename : String)
  | numbering (payload : ImagePayload) (stem suffix : List Char) (collisionIndex : Nat)
  | writing (payload : ImagePayload) (target : Option String)
  | copying (payload : ImagePayload) (target : String) (written : Nat)
  | finishing (payload : ImagePayload) (target : String)
  | returned (payload : ImagePayload) (target : String)
  | failed (payload : ImagePayload)
  deriving DecidableEq, Repr

-- Whether the operation fails, and how many bytes a write takes.
structure Disk where
  fails : Bool := false
  count : Nat := 0

def probe (w : Downloads) (payload : ImagePayload) (name : String) (taken : List Char → Delivery) : Delivery :=
  match w.links.resolve name with
  | .escapes | .loops => .failed payload
  | .below => .writing payload none
  | .itself => taken w.dirName
  | .child target => if (w.files target).isSome then taken target.toList else .writing payload (some target)

def writeAt (content : Bytes) (offset : Nat) (chunk : Bytes) : Bytes :=
  if chunk = [] then content
  else content.take offset ++ List.replicate (offset - content.length) 0 ++ chunk ++ content.drop (offset + chunk.length)

def stepDelivery (w : Downloads) (delivery : Delivery) (disk : Disk) : Option (Downloads × Delivery) :=
  match delivery with
  | .arrived payload => some (w,(resolveFilename payload).elim (.failed payload) fun filename => .probing payload (String.ofList filename))
  -- The stem and the suffix are those of the path that the name resolves to.
  | .probing payload filename => some (w,probe w payload filename fun candidate =>
      .numbering payload (stem candidate) (suffix candidate) 2)
  | .numbering payload stem suffix index => some (w,probe w payload (numberedName stem suffix index) fun _ =>
      .numbering payload stem suffix (index + 1))
  | .writing payload none => some (w,.failed payload)
  | .writing payload (some target) => some (
      if disk.fails then (w,.failed payload)
      else ({w with files:=Function.update w.files target (some [])},.copying payload target 0))
  | .copying payload target written => some (
      if disk.fails then (w,.failed payload)
      else
        let chunk := (payload.imageBytes.drop written).take disk.count
        ({w with files:=Function.update w.files target (some (writeAt ((w.files target).getD []) written chunk))},
          if payload.imageBytes.length ≤ written + chunk.length then .finishing payload target
          else .copying payload target (written + chunk.length)))
  | .finishing payload target => some (w,if payload.temporary && disk.fails then .failed payload else .returned payload target)
  | .returned _ _ | .failed _ => none

def deliveryPool (Index : Type*) [DecidableEq Index] : System (Pool Index Downloads Delivery) (Move Index Disk Empty) :=
  pool stepDelivery fun _ _ => none

-- The file is not there when it is created, and what is created is written to the end.
def writesAlone (w : Downloads) (delivery : Delivery) (disk : Disk) : Bool :=
  match delivery with
  | .writing _ (some target) => disk.fails || (w.files target).isNone
  | .copying _ _ _ => !disk.fails
  | .finishing payload _ => !(payload.temporary && disk.fails)
  | _ => true

def oneWriter : Condition Downloads Delivery Disk Empty where
  own w delivery disk := writesAlone w delivery disk = true

def holds : Delivery → Option String
  | .copying _ target _ | .finishing _ target | .returned _ target => some target
  | _ => none

def written : Delivery → Bytes
  | .copying payload _ written => payload.imageBytes.take written
  | .finishing payload _ | .returned payload _ => payload.imageBytes
  | _ => []

def aims : Delivery → Option String
  | .writing _ target => target
  | delivery => holds delivery

inductive Effect (w : Downloads) (delivery : Delivery) : Downloads → Delivery → Prop
  | leaves {delivery' : Delivery} (held : holds delivery' = holds delivery) (same : written delivery' = written delivery) :
      Effect w delivery w delivery'
  | opens {delivery' : Delivery} (target : String) (aimed : aims delivery = some target) (free : w.files target = none)
      (none : holds delivery = none) (held : holds delivery' = some target) (fresh : written delivery' = []) :
      Effect w delivery {w with files:=Function.update w.files target (some [])} delivery'
  | appends {delivery' : Delivery} (target : String) (content : Bytes) (before : holds delivery = some target)
      (held : holds delivery' = some target) (whole : w.files target = some (written delivery) → content = written delivery') :
      Effect w delivery {w with files:=Function.update w.files target (some content)} delivery'

variable {w w' : Downloads} {delivery delivery' : Delivery} {disk : Disk}

theorem write_next (bytes : Bytes) (offset count : Nat) : writeAt (bytes.take offset) offset ((bytes.drop offset).take count) =
    bytes.take (offset + ((bytes.drop offset).take count).length) := by
  unfold writeAt
  split
  · rename_i none
    rw [none,List.length_nil,Nat.add_zero]
  · rename_i some
    have inside : offset < bytes.length := by
      by_contra outside
      rw [List.drop_eq_nil_of_le (Nat.not_lt.mp outside),List.take_nil] at some
      exact some rfl
    have length : (bytes.take offset).length = offset := List.length_take_of_le inside.le
    have rest : (bytes.take offset).drop (offset + ((bytes.drop offset).take count).length) = [] :=
      List.drop_eq_nil_of_le (by omega)
    rw [List.take_take,Nat.min_self,length,Nat.sub_self,List.replicate_zero,List.append_nil,rest,List.append_nil,List.take_add]
    congr 1
    rw [List.length_take]
    by_cases all : count ≤ (bytes.drop offset).length
    · rw [Nat.min_eq_left all]
    · rw [Nat.min_eq_right (Nat.le_of_not_le all),List.take_of_length_le (Nat.le_of_not_le all),List.take_length]

theorem probe_quiet {payload : ImagePayload} {name : String} {taken : List Char → Delivery} (quiet : ∀ candidate, holds (taken candidate) = none ∧
    written (taken candidate) = []) : holds (probe w payload name taken) = none ∧ written (probe w payload name taken) = [] := by
  unfold probe
  split
  · exact ⟨rfl,rfl⟩
  · exact ⟨rfl,rfl⟩
  · exact ⟨rfl,rfl⟩
  · exact quiet _
  · split
    · exact quiet _
    · exact ⟨rfl,rfl⟩

theorem step_effect (admitted : writesAlone w delivery disk = true) (taken : stepDelivery w delivery disk = some (w',delivery')) :
    Effect w delivery w' delivery' := by
  cases delivery with
  | arrived payload =>
      cases taken
      cases resolveFilename payload with
      | none => exact .leaves rfl rfl
      | some filename => exact .leaves rfl rfl
  | probing payload filename =>
      cases taken
      have quiet := @probe_quiet w payload filename (fun candidate => .numbering payload (stem candidate) (suffix candidate) 2)
        fun _ => ⟨rfl,rfl⟩
      exact .leaves quiet.1 quiet.2
  | numbering payload stem suffix index =>
      cases taken
      have quiet := @probe_quiet w payload (numberedName stem suffix index) (fun _ => .numbering payload stem suffix (index + 1))
        fun _ => ⟨rfl,rfl⟩
      exact .leaves quiet.1 quiet.2
  | writing payload target =>
      cases target with
      | none =>
          cases taken
          exact .leaves rfl rfl
      | some target =>
          simp only [stepDelivery,Option.some.injEq] at taken
          split at taken
          · cases taken
            exact .leaves rfl rfl
          · rename_i works
            cases taken
            have free : w.files target = none := by
              simpa [writesAlone,works] using admitted
            exact .opens target rfl free rfl rfl rfl
  | copying payload target written =>
      have works : disk.fails = false := by simpa [writesAlone] using admitted
      simp only [stepDelivery,works,Option.some.injEq,Bool.false_eq_true,if_false] at taken
      cases taken
      have next := write_next payload.imageBytes written disk.count
      split
      · rename_i last
        refine .appends target _ rfl rfl ?_
        intro here
        rw [here,Option.getD_some]
        exact next.trans (List.take_of_length_le last)
      · refine .appends target _ rfl rfl ?_
        intro here
        rw [here,Option.getD_some]
        exact next
  | finishing payload target =>
      have works : ¬(payload.temporary && disk.fails) = true := by
        simp only [writesAlone,Bool.not_eq_true'] at admitted
        rw [admitted]
        decide
      simp only [stepDelivery,if_neg works] at taken
      cases taken
      exact .leaves rfl rfl
  | returned payload target => cases taken
  | failed payload => cases taken

theorem sanitized_single (filename : List Char) : SingleName (sanitizeFilename filename) := by
  unfold sanitizeFilename
  dsimp only
  split
  · exact single_name (by decide) (by decide) (by decide)
  · rename_i some
    refine single_name some ?_ ?_
    · intro slash
      rcases mem_substitute (mem_strip slash) with dash | ⟨-,kept⟩
      · cases dash
      · cases kept
    · intro first
      exact absurd (stripChars_head first) (by decide)

-- A name with a dash in it is no dot name.
theorem numbered_single {stem suffix : List Char} (stems : '/' ∉ stem) (suffixes : '/' ∉ suffix) (index : Nat) :
    SingleName (numberedName stem suffix index).toList := by
  unfold numberedName
  rw [String.toList_ofList]
  have dash : '-' ∈ stem ++ '-' :: (toString index).toList ++ suffix :=
    List.mem_append_left _ (List.mem_append_right _ List.mem_cons_self)
  refine ⟨List.ne_nil_of_mem dash,?_,?_,?_⟩
  · intro slash
    rw [Nat.toString_eq_repr,Nat.toList_repr] at slash
    rcases List.mem_append.mp slash with front | tail
    · rcases List.mem_append.mp front with inStem | rest
      · exact stems inStem
      · rcases List.mem_cons.mp rest with other | digit
        · cases other
        · exact digits_plain index rfl digit
    · exact suffixes tail
  · intro equal
    rw [equal] at dash
    simp at dash
  · intro equal
    rw [equal] at dash
    simp at dash

theorem resolve_single {links : Links} {name target : String} (single : SingleName name.toList) (resolved : links.resolve name = .child target) :
    SingleName target.toList ∧ links.target target = none := by
  unfold Links.resolve at resolved
  cases linked : links.target name with
  | none =>
      rw [linked] at resolved
      cases resolved
      exact ⟨single,linked⟩
  | some other =>
      rw [linked] at resolved
      dsimp only [Option.getD_some] at resolved
      subst resolved
      exact ⟨links.single name target linked,links.settled name target linked⟩

def Named (links : Links) : Delivery → Prop
  | .probing _ filename => SingleName filename.toList
  | .numbering _ stem suffix _ => '/' ∉ stem ∧ '/' ∉ suffix
  | delivery => ∀ target, aims delivery = some target → SingleName target.toList ∧ links.target target = none

theorem probe_named {payload : ImagePayload} {name : String} {taken : List Char → Delivery}
    (single : SingleName name.toList) (next : ∀ candidate, '/' ∉ candidate → Named w.links (taken candidate)) :
    Named w.links (probe w payload name taken) := by
  unfold probe
  split
  · intro target none
    cases none
  · intro target none
    cases none
  · intro target none
    cases none
  · exact next _ w.plain
  · rename_i resolved
    obtain ⟨alone,unlinked⟩ := resolve_single single resolved
    split
    · exact next _ alone.slashless
    · intro target aimed
      cases aimed
      exact ⟨alone,unlinked⟩

theorem step_named (named : Named w.links delivery) (taken : stepDelivery w delivery disk = some (w',delivery')) :
    Named w.links delivery' ∧ w'.links = w.links := by
  cases delivery with
  | arrived payload =>
      cases taken
      refine ⟨?_,rfl⟩
      cases resolved : resolveFilename payload with
      | none =>
          intro target none
          cases none
      | some filename =>
          simp only [resolveFilename] at resolved
          split at resolved
          · cases resolved
          · split at resolved
            · cases resolved
            · cases resolved
              dsimp only [Option.elim_some,Named]
              rw [String.toList_ofList]
              exact sanitized_single _
  | probing payload filename =>
      cases taken
      refine ⟨probe_named named ?_,rfl⟩
      intro candidate slashless
      exact ⟨fun slash => slashless (mem_stem slash),fun slash => slashless (mem_suffix slash)⟩
  | numbering payload stem suffix index =>
      cases taken
      exact ⟨probe_named (numbered_single named.1 named.2 index) fun _ _ => named,rfl⟩
  | writing payload target =>
      cases target with
      | none =>
          cases taken
          exact ⟨fun target none => (by cases none),rfl⟩
      | some target =>
          simp only [stepDelivery,Option.some.injEq] at taken
          split at taken
          · cases taken
            exact ⟨fun target none => (by cases none),rfl⟩
          · cases taken
            exact ⟨named,rfl⟩
  | copying payload target written =>
      simp only [stepDelivery,Option.some.injEq] at taken
      split at taken
      · cases taken
        exact ⟨fun target none => (by cases none),rfl⟩
      · cases taken
        refine ⟨?_,rfl⟩
        split <;> exact named
  | finishing payload target =>
      simp only [stepDelivery,Option.some.injEq] at taken
      split at taken
      · cases taken
        exact ⟨fun target none => (by cases none),rfl⟩
      · cases taken
        exact ⟨named,rfl⟩
  | returned payload target => cases taken
  | failed payload => cases taken

def Delivery.payload : Delivery → ImagePayload
  | .arrived payload | .probing payload _ | .numbering payload _ _ _ | .writing payload _ | .copying payload _ _
  | .finishing payload _ | .returned payload _ | .failed payload => payload

theorem probe_payload {payload : ImagePayload} {name : String} {taken : List Char → Delivery}
    (next : ∀ candidate, (taken candidate).payload = payload) : (probe w payload name taken).payload = payload := by
  unfold probe
  split
  · rfl
  · rfl
  · rfl
  · exact next _
  · split
    · exact next _
    · rfl

theorem step_payload (taken : stepDelivery w delivery disk = some (w',delivery')) : delivery'.payload = delivery.payload := by
  cases delivery with
  | arrived payload =>
      cases taken
      cases resolveFilename payload <;> rfl
  | probing payload filename =>
      cases taken
      exact probe_payload fun _ => rfl
  | numbering payload stem suffix index =>
      cases taken
      exact probe_payload fun _ => rfl
  | writing payload target =>
      cases target with
      | none =>
          cases taken
          rfl
      | some target =>
          simp only [stepDelivery,Option.some.injEq] at taken
          split at taken <;> cases taken <;> rfl
  | copying payload target written =>
      simp only [stepDelivery,Option.some.injEq] at taken
      split at taken
      · cases taken
        rfl
      · cases taken
        split <;> rfl
  | finishing payload target =>
      simp only [stepDelivery,Option.some.injEq] at taken
      split at taken <;> cases taken <;> rfl
  | returned payload target => cases taken
  | failed payload => cases taken

section Runs
variable {Index : Type*} [DecidableEq Index] {start s next : Pool Index Downloads Delivery} {move : Move Index Disk Empty}

-- Each file is one that was there or is held by one call, which holds it with what it has written.
structure Kept (files : String → Option Bytes) (s : Pool Index Downloads Delivery) : Prop where
  before : ∀ name content, files name = some content → s.world.files name = some content
  owned : ∀ name, s.world.files name ≠ none → files name ≠ none ∨ ∃ i, holds (s.threads i) = some name
  held : ∀ i name, holds (s.threads i) = some name → files name = none ∧ s.world.files name = some (written (s.threads i))
  apart : ∀ i j name, holds (s.threads i) = some name → holds (s.threads j) = some name → i = j

theorem effect_holds {name : String} (effect : Effect w delivery w' delivery') (here : holds delivery = some name) :
    holds delivery' = some name := by
  cases effect with
  | leaves held _ => rwa [held]
  | opens target _ _ none _ _ =>
      rw [none] at here
      cases here
  | appends target content before held _ =>
      rw [before] at here
      rwa [held]

theorem effect_kept {files : String → Option Bytes} {i : Index} (kept : Kept files s)
    (effect : Effect s.world (s.threads i) w' delivery') : Kept files ⟨w',Function.update s.threads i delivery'⟩ := by
  cases effect with
  | leaves held same =>
      have holding : ∀ j, holds (Function.update s.threads i delivery' j) = holds (s.threads j) := by
        intro j
        by_cases here : j = i
        · subst j
          rw [Function.update_self,held]
        · rw [Function.update_of_ne here]
      have writing : ∀ j, written (Function.update s.threads i delivery' j) = written (s.threads j) := by
        intro j
        by_cases here : j = i
        · subst j
          rw [Function.update_self,same]
        · rw [Function.update_of_ne here]
      refine ⟨kept.before,?_,?_,?_⟩
      · simpa only [holding] using kept.owned
      · simpa only [holding,writing] using kept.held
      · simpa only [holding] using kept.apart
  | opens target aimed free none held fresh =>
      have unheld : ∀ j, holds (s.threads j) ≠ some target := by
        intro j here
        rw [(kept.held j target here).2] at free
        cases free
      have fresh_name : files target = .none := by
        cases there : files target with
        | none => rfl
        | some content =>
            rw [kept.before target content there] at free
            cases free
      have elsewhere : ∀ {name}, name ≠ target → Function.update s.world.files target (some []) name = s.world.files name :=
        fun different => Function.update_of_ne different _ _
      refine ⟨?_,?_,?_,?_⟩ <;> dsimp only
      · intro name content there
        have different : name ≠ target := by
          rintro rfl
          rw [fresh_name] at there
          cases there
        exact (elsewhere different).trans (kept.before name content there)
      · intro name there
        by_cases here : name = target
        · subst name
          exact .inr ⟨i,by rw [Function.update_self,held]⟩
        · rw [elsewhere here] at there
          refine (kept.owned name there).imp id ?_
          rintro ⟨j,holder⟩
          refine ⟨j,?_⟩
          have other : j ≠ i := by
            rintro rfl
            rw [none] at holder
            cases holder
          rwa [Function.update_of_ne other]
      · intro j name holder
        by_cases here : j = i
        · subst j
          rw [Function.update_self,held] at holder
          cases holder
          refine ⟨fresh_name,?_⟩
          rw [Function.update_self,Function.update_self,fresh]
        · rw [Function.update_of_ne here] at holder ⊢
          have different : name ≠ target := by
            rintro rfl
            exact unheld j holder
          rw [elsewhere different]
          exact kept.held j name holder
      · intro j k name first second
        by_cases one : j = i
        · by_cases two : k = i
          · rw [one,two]
          · subst j
            rw [Function.update_self,held] at first
            cases first
            rw [Function.update_of_ne two] at second
            exact absurd second (unheld k)
        · by_cases two : k = i
          · subst k
            rw [Function.update_self,held] at second
            cases second
            rw [Function.update_of_ne one] at first
            exact absurd first (unheld j)
          · rw [Function.update_of_ne one] at first
            rw [Function.update_of_ne two] at second
            exact kept.apart j k name first second
  | appends target content before held whole =>
      have holding : ∀ j, holds (Function.update s.threads i delivery' j) = holds (s.threads j) := by
        intro j
        by_cases here : j = i
        · subst j
          rw [Function.update_self,held,before]
        · rw [Function.update_of_ne here]
      obtain ⟨new,there⟩ := kept.held i target before
      refine ⟨?_,?_,?_,?_⟩ <;> dsimp only
      · intro name bytes initial
        have different : name ≠ target := by
          rintro rfl
          rw [new] at initial
          cases initial
        exact (Function.update_of_ne different _ _).trans (kept.before name bytes initial)
      · intro name present
        by_cases here : name = target
        · subst name
          exact .inr ⟨i,by rw [holding,before]⟩
        · rw [Function.update_of_ne here] at present
          simpa only [holding] using kept.owned name present
      · intro j name holder
        by_cases here : j = i
        · subst j
          rw [Function.update_self,held] at holder
          cases holder
          refine ⟨new,?_⟩
          rw [Function.update_self,Function.update_self,whole there]
        · rw [Function.update_of_ne here] at holder ⊢
          have different : name ≠ target := by
            rintro rfl
            exact here (kept.apart j i name holder before)
          rw [Function.update_of_ne different]
          exact kept.held j name holder
      · simpa only [holding] using kept.apart

theorem move_parts (allowed : oneWriter.Admits s move) (taken : (deliveryPool Index).step s move = some next) :
    ∃ i disk w' delivery', stepDelivery s.world (s.threads i) disk = some (w',delivery') ∧
      Effect s.world (s.threads i) w' delivery' ∧ next = ⟨w',Function.update s.threads i delivery'⟩ := by
  cases move with
  | thread i disk =>
      obtain ⟨w',delivery',moved,rfl⟩ := thread_parts taken
      exact ⟨i,disk,w',delivery',moved,step_effect allowed.1 moved,rfl⟩
  | environment event => cases event

-- What a run does not take back: what is held, whose call it is, and the links.
structure Later (s next : Pool Index Downloads Delivery) : Prop where
  holds : ∀ i name, holds (s.threads i) = some name → holds (next.threads i) = some name
  payload : ∀ i, (next.threads i).payload = (s.threads i).payload
  links : next.world.links = s.world.links

structure Tracks (files : String → Option Bytes) (s : Pool Index Downloads Delivery) : Prop where
  kept : Kept files s
  named : ∀ i, Named s.world.links (s.threads i)

theorem step_tracks {files : String → Option Bytes} (tracks : Tracks files s) (allowed : oneWriter.Admits s move)
    (taken : (deliveryPool Index).step s move = some next) : Tracks files next ∧ Later s next := by
  obtain ⟨i,disk,w',delivery',moved,effect,rfl⟩ := move_parts allowed taken
  obtain ⟨named,links⟩ := step_named (tracks.named i) moved
  refine ⟨⟨effect_kept tracks.kept effect,?_⟩,⟨?_,?_,links⟩⟩
  · intro j
    dsimp only
    rw [links]
    by_cases here : j = i
    · subst j
      rwa [Function.update_self]
    · rw [Function.update_of_ne here]
      exact tracks.named j
  · intro j name holder
    by_cases here : j = i
    · subst j
      dsimp only
      rw [Function.update_self]
      exact effect_holds effect holder
    · dsimp only
      rwa [Function.update_of_ne here]
  · intro j
    by_cases here : j = i
    · subst j
      dsimp only
      rw [Function.update_self]
      exact step_payload moved
    · dsimp only
      rw [Function.update_of_ne here]

theorem run_tracks {files : String → Option Bytes} (tracks : Tracks files s) (path : Reaches (deliveryPool Index) oneWriter.Admits s next) :
    Tracks files next ∧ Later s next := by
  induction path with
  | refl => exact ⟨tracks,⟨fun _ _ => id,fun _ => rfl,rfl⟩⟩
  | tail _ step ih =>
      obtain ⟨move,allowed,taken⟩ := step
      obtain ⟨tracks',later⟩ := step_tracks ih.1 allowed taken
      refine ⟨tracks',⟨?_,?_,?_⟩⟩
      · intro i name holder
        exact later.holds i name (ih.2.holds i name holder)
      · intro i
        exact (later.payload i).trans (ih.2.payload i)
      · exact later.links.trans ih.2.links

def Starts (s : Pool Index Downloads Delivery) : Prop := ∀ i, ∃ payload, s.threads i = .arrived payload

omit [DecidableEq Index] in
theorem starts_tracks (starts : Starts s) : Tracks s.world.files s := by
  have idle : ∀ i name, holds (s.threads i) = some name → False := by
    intro i name holder
    obtain ⟨payload,arrived⟩ := starts i
    rw [arrived] at holder
    cases holder
  refine ⟨⟨fun _ _ => id,fun _ => .inl,?_,?_⟩,?_⟩
  · intro i name holder
    exact (idle i name holder).elim
  · intro i j name holder
    exact (idle i name holder).elim
  · intro i
    obtain ⟨payload,arrived⟩ := starts i
    rw [arrived]
    intro target none
    cases none

end Runs

-- While each call creates its file before another takes the name, and writes it to the end:
-- what a call returns is a new child of the directory, no other call's, with its bytes; and the
-- directory holds what was there and the files of the calls that have not failed.
theorem images_delivered {Index : Type*} [DecidableEq Index] {start s next : Pool Index Downloads Delivery} (starts : Starts start)
    (path : Reaches (deliveryPool Index) oneWriter.Admits start s) (later : Reaches (deliveryPool Index) oneWriter.Admits s next) :
    (∀ i payload, s.threads i = .arrived payload → ∀ image target, next.threads i = .returned image target →
      image = payload ∧ SingleName target.toList ∧ next.world.links.target target = none ∧ s.world.files target = none ∧
        next.world.files target = some payload.imageBytes) ∧
    (∀ i j payload image target, next.threads i = .returned payload target → next.threads j = .returned image target → i = j) ∧
    (∀ name content, start.world.files name = some content → next.world.files name = some content) ∧
    ∀ name, next.world.files name ≠ none → start.world.files name ≠ none ∨ ∃ i, holds (next.threads i) = some name := by
  have before := (run_tracks (starts_tracks starts) path).1
  obtain ⟨after,kept⟩ := run_tracks before later
  refine ⟨?_,?_,after.kept.before,after.kept.owned⟩
  · intro i payload arrived image target returned
    have same := kept.payload i
    rw [arrived,returned] at same
    have mine : holds (next.threads i) = some target := by rw [returned]; rfl
    have named := after.named i
    rw [returned] at named
    obtain ⟨new,content⟩ := after.kept.held i target mine
    rw [returned] at content
    refine ⟨same,(named target rfl).1,(named target rfl).2,?_,?_⟩
    · by_contra present
      rcases before.kept.owned target present with initial | ⟨j,holder⟩
      · exact initial new
      · have one := after.kept.apart i j target mine (kept.holds j target holder)
        subst one
        rw [arrived] at holder
        cases holder
    · exact content.trans (congrArg (fun image => some image.imageBytes) same)
  · intro i j payload image target first second
    exact after.kept.apart i j target (by rw [first]; rfl) (by rw [second]; rfl)

def emptyDownloads : Downloads where
  links := ⟨fun _ => none,fun _ _ none => (by cases none),fun _ _ none => (by cases none)⟩
  dirName := "Downloads".toList
  plain := by decide
  files := fun _ => none

def twoPhotos : Pool Bool Downloads Delivery := ⟨emptyDownloads,fun second =>
  .arrived ⟨.image,some "IMG_1.jpg","image/jpeg",if second then [2] else [1],false⟩⟩

def move (second : Bool) (count : Nat := 0) : Move Bool Disk Empty := .thread second ⟨false,count⟩

instance (w : Downloads) (delivery : Delivery) (disk : Disk) : Decidable (oneWriter.own w delivery disk) :=
  inferInstanceAs (Decidable (writesAlone w delivery disk = true))
instance (w : Downloads) (one two : Delivery) (disk : Disk) : Decidable (oneWriter.beside w one disk two) :=
  inferInstanceAs (Decidable True)
instance (w : Downloads) (event : Empty) (delivery : Delivery) : Decidable (oneWriter.event w event delivery) :=
  inferInstanceAs (Decidable True)

-- Both calls find the name free, then both create the file.
theorem both_returned : ∃ next, Reachable (deliveryPool Bool) twoPhotos next ∧
    next.threads false = .returned ⟨.image,some "IMG_1.jpg","image/jpeg",[1],false⟩ "IMG_1.jpg" ∧
    next.threads true = .returned ⟨.image,some "IMG_1.jpg","image/jpeg",[2],false⟩ "IMG_1.jpg" ∧
    next.world.files "IMG_1.jpg" = some [2] := by
  obtain ⟨next,path,seen⟩ := checkedRun_exhibits (deliveryPool Bool) (fun _ _ => True) twoPhotos
    [move false,move false,move true,move true,move false,move false 1,move false,move true,move true 1,move true]
    (fun next => next.threads false = .returned ⟨.image,some "IMG_1.jpg","image/jpeg",[1],false⟩ "IMG_1.jpg" &&
      next.threads true = .returned ⟨.image,some "IMG_1.jpg","image/jpeg",[2],false⟩ "IMG_1.jpg" &&
      next.world.files "IMG_1.jpg" = some [2]) (by decide +kernel)
  simp only [Bool.and_eq_true,decide_eq_true_eq] at seen
  exact ⟨next,path,seen.1.1,seen.1.2,seen.2⟩

theorem photos_start : Starts twoPhotos := fun _ => ⟨_,rfl⟩

-- The second call comes when the first has written its file.
theorem both_kept : ∃ next : Pool Bool Downloads Delivery, next.world.files "IMG_1.jpg" = some [1] ∧
    next.world.files "IMG_1-2.jpg" = some [2] := by
  obtain ⟨next,path,seen⟩ := checkedRun_exhibits (deliveryPool Bool) oneWriter.Admits twoPhotos
    [move false,move false,move false,move false 1,move false,move true,move true,move true,move true,move true 1,move true]
    (fun next => next.threads false = .returned ⟨.image,some "IMG_1.jpg","image/jpeg",[1],false⟩ "IMG_1.jpg" &&
      next.threads true = .returned ⟨.image,some "IMG_1.jpg","image/jpeg",[2],false⟩ "IMG_1-2.jpg") (by decide +kernel)
  simp only [Bool.and_eq_true,decide_eq_true_eq] at seen
  have delivered := (images_delivered photos_start reaches_refl path).1
  have first := delivered false _ rfl _ _ seen.1
  have second := delivered true _ rfl _ _ seen.2
  exact ⟨next,first.2.2.2.2,second.2.2.2.2⟩

end ImageSearch.DownloadedImages
