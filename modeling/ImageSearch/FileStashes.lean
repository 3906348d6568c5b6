import ImageSearch.SharedStashes

namespace ImageSearch.FileStashes
open Payload SharedStashes

def maxBatchFileCount : Nat := 50

def textExtensions : List (List String × String) := [
  ([".txt",".text",".log",".diff",".patch"],"text/plain"),
  ([".cfg",".conf",".ini",".toml",".env",".properties",".editorconfig"],"text/plain"),
  ([".sh",".bash",".zsh",".fish",".command"],"text/plain"),
  ([".py",".pyi",".pyx"],"text/plain"),
  ([".js",".jsx",".mjs",".cjs"],"text/plain"),
  ([".ts",".tsx"],"text/plain"),
  ([".swift"],"text/plain"),
  ([".kt",".kts"],"text/plain"),
  ([".java",".scala",".groovy"],"text/plain"),
  ([".c",".h"],"text/plain"),
  ([".cpp",".cxx",".cc",".hpp",".hxx"],"text/plain"),
  ([".rs"],"text/plain"),
  ([".go"],"text/plain"),
  ([".rb",".rake"],"text/plain"),
  ([".php",".phtml"],"text/plain"),
  ([".lua"],"text/plain"),
  ([".r",".R"],"text/plain"),
  ([".pl",".pm"],"text/plain"),
  ([".dart"],"text/plain"),
  ([".md",".markdown",".mdown",".mkd",".rst",".adoc"],"text/plain"),
  ([".html",".htm",".xhtml"],"text/html"),
  ([".css",".scss",".sass",".less"],"text/css"),
  ([".xml",".plist",".svg",".xaml",".rss",".atom"],"text/xml"),
  ([".yaml",".yml"],"text/yaml"),
  ([".json",".geojson",".har"],"text/plain"),
  ([".csv",".tsv"],"text/plain"),
  ([".sql"],"text/plain"),
  ([".dockerignore"],"text/plain"),
  ([".gitignore",".gitattributes"],"text/plain"),
  ([".python-version",".ruby-version",".node-version",".nvmrc"],"text/plain")]

def imageExtensions : List (List String × String) := [
  ([".png"],"image/png"),
  ([".jpg",".jpeg"],"image/jpeg"),
  ([".gif"],"image/gif"),
  ([".webp"],"image/webp"),
  ([".bmp"],"image/bmp")]

def plainNames : List String := ["makefile","dockerfile","vagrantfile","gemfile","rakefile","procfile","brewfile","berksfile",
  "pipfile","jenkinsfile","license"]

def endsWith (text : String) (extensions : List String) : Bool :=
  extensions.any fun extension => extension.toList.isSuffixOf text.toList

def basename (path : String) : String := String.ofList (path.toList.reverse.takeWhile (· ≠ '/')).reverse

structure Host where
  lower : String → String
  isFile : String → Bool
  size : String → Option Nat

variable (host : Host)

def detectMime (filePath : String) : String :=
  let lower := host.lower filePath
  match imageExtensions.find? (fun row => endsWith lower row.1) with
  | some row => row.2
  | none =>
    if basename lower ∈ plainNames then "text/plain"
    else ((textExtensions.find? fun row => endsWith lower row.1).map Prod.snd).getD "application/octet-stream"

-- An entry of the request's list; the error is the ValueError's text.
def fileEntry (item : Json) : Except String FileEntry :=
  match item with
  | .object fields =>
    match fields.lookup "file_path" with
    | some (.string filePath) =>
      if filePath = "" then .error "Missing or invalid 'file_path' in files entry."
      else if host.isFile filePath then
        .ok {
          filePath
          filename:=match fields.lookup "filename" with
            | some (.string filename) => if filename = "" then none else some filename
            | _ => none
          contentType:=detectMime host filePath
          sizeBytes:=(host.size filePath).getD 0}
      else .error ("File not found: " ++ filePath)
    | _ => .error "Missing or invalid 'file_path' in files entry."
  | _ => .error "Each entry in files must be an object with 'file_path'."

def createFileStash (filesRaw : List Json) : Except String (List FileEntry) :=
  if maxBatchFileCount < filesRaw.length then .error "Too many files. Maximum is 50."
  else if filesRaw.length = 0 then .error "files list must not be empty."
  else filesRaw.mapM (fileEntry host)

structure FileBatch (files : List FileEntry) : Prop where
  some_file : files ≠ []
  count : files.length ≤ maxBatchFileCount
  on_disk : ∀ file ∈ files, file.content = none
  type : ∀ file ∈ files, file.contentType = detectMime host file.filePath

variable {host}

theorem entry_made {item : Json} {file : FileEntry} (made : fileEntry host item = .ok file) :
    file.content = none ∧ file.contentType = detectMime host file.filePath := by
  unfold fileEntry at made
  split at made
  · split at made
    · split at made
      · cases made
      · split at made
        · obtain rfl := Except.ok.inj made
          exact ⟨rfl,rfl⟩
        · cases made
    · cases made
  · cases made

theorem entries_made {items : List Json} {files : List FileEntry} (made : items.mapM (fileEntry host) = .ok files) :
    files.length = items.length ∧ ∀ file ∈ files, file.content = none ∧ file.contentType = detectMime host file.filePath := by
  induction items generalizing files with
  | nil =>
      obtain rfl := Except.ok.inj made
      exact ⟨rfl,fun _ member => absurd member List.not_mem_nil⟩
  | cons item rest ih =>
      rw [List.mapM_cons] at made
      cases first : fileEntry host item with
      | error text =>
          rw [first] at made
          cases made
      | ok file =>
          rw [first] at made
          cases later : rest.mapM (fileEntry host) with
          | error text =>
              rw [later] at made
              cases made
          | ok others =>
              rw [later] at made
              obtain rfl := Except.ok.inj made
              refine ⟨congrArg Nat.succ (ih later).1,?_⟩
              intro entry member
              rcases List.mem_cons.mp member with rfl | other
              · exact entry_made first
              · exact (ih later).2 entry other

theorem batch_made {filesRaw : List Json} {files : List FileEntry} (made : createFileStash host filesRaw = .ok files) :
    FileBatch host files := by
  unfold createFileStash at made
  split at made
  · cases made
  · rename_i few
    split at made
    · cases made
    · rename_i nonempty
      obtain ⟨length,entries⟩ := entries_made made
      refine ⟨?_,by omega,fun file member => (entries file member).1,fun file member => (entries file member).2⟩
      rintro rfl
      exact nonempty length.symm

def knownTypes : List String := ["image/png","image/jpeg","image/gif","image/webp","image/bmp","text/plain","text/html","text/css",
  "text/xml","text/yaml","application/octet-stream"]

theorem mime_known (filePath : String) : detectMime host filePath ∈ knownTypes := by
  have images : ∀ row ∈ imageExtensions, row.2 ∈ knownTypes := by decide
  have texts : ∀ row ∈ textExtensions, row.2 ∈ knownTypes := by decide
  unfold detectMime
  dsimp only
  split
  · rename_i row found
    exact images row (List.mem_of_find?_eq_some found)
  · split
    · decide
    · cases found : textExtensions.find? fun row => endsWith (host.lower filePath) row.1 with
      | none => decide
      | some row => exact texts row (List.mem_of_find?_eq_some found)

end ImageSearch.FileStashes
