import Phrasebook.Files.Tree
import Phrasebook.Workspace.Ignore
import Phrasebook.Settings.Validate
import Phrasebook.Settings.Matcher
import Phrasebook.Language.Detect
import Phrasebook.Document.Assembly

/-! # The catalogs of a workspace

A workspace is a directory with catalog files in it, and perhaps a settings file at its root.
Indexing it walks the directory (hidden entries included; excluded directories, and what the
ignore files of the root, of the directories above it and of those below it ignore, left out), takes
the files that the settings call catalogs, in the order of their paths, and reads each one. A
file read keeps its document, under its path, with its language taken from the path when the
document names none; a file that fails is kept as a failure with the reason. A later record of
a path replaces an earlier one, document or failure; two texts with the same parts are one path.

The workspace's collection takes the documents in the order of their paths: one without a
language is skipped, and so is one whose language the collection already finds with exactly
that spelling, or whose entries repeat.
-/

namespace Phrasebook

/-- The name of the settings file at the root of a workspace. -/
def settingsFileName : String := ".ts-catalog.json"

/-- The settings of a workspace: those of its settings file, or the defaults when it has none;
they must have no problem. -/
def Settings.load (t : Files.Tree) (root : String) : Except SettingsError Settings := do
  let path := Files.join root [settingsFileName]
  let s ← if t.has path then
      match t.read path with
      | .ok text => Settings.ofText text
      | .error f => .error (.unreadable f)
    else pure {}
  s.checked

/-- The most files that may be read at once. -/
def maxReaders : Nat := 2305843009213693951

/-- Why a workspace, or a file in it, could not be indexed. -/
inductive IndexError where
  | matcher (e : MatcherError)
  | unreadable (path : String) (fault : FileFault)
  | malformed (path : String) (e : ReadError)
  | invalidRoot (path : String)
  /-- More files at once than can be counted. -/
  | tooManyReaders
  deriving Repr

namespace IndexError

/-- The sentence for the error. -/
def message : IndexError → String
  | .matcher e => "Invalid file patterns: " ++ e.message
  | .unreadable p f => "Failed to read file " ++ Text.quote p ++ ": " ++ f.message
  | .malformed p e => "Failed to parse " ++ Text.quote p ++ ": " ++ e.message
  | .invalidRoot p => "Workspace root does not exist: " ++ Text.quote p
  | .tooManyReaders =>
    "a semaphore may not have more than MAX_PERMITS permits (" ++ toString maxReaders ++ ")"

end IndexError

/-- A file that could not be read, and why. -/
structure LoadFailure where
  path : String
  message : String
  deriving Repr, DecidableEq

/-- Reads the document of a catalog file; a document without a language takes the one its path
names. -/
def loadDocument (t : Files.Tree) (path : String) : Except IndexError Document := do
  let text ← match t.read path with
    | .ok s => pure s
    | .error f => .error (.unreadable path f)
  let d ← match Document.read text with
    | .ok d => pure d
    | .error e => .error (.malformed path e)
  if d.language.all (·.isEmpty) then pure { d with language := Language.detect path }
  else pure d

/-- Puts a document under a path into a list ordered by path; the document of the same path
there gives way to it, and the path keeps the text it had. -/
def placeDocument (path : String) (d : Document) :
    List (String × Document) → List (String × Document)
  | [] => [(path, d)]
  | (p, e) :: rest =>
    match Files.comparePaths path p with
    | .lt => (path, d) :: (p, e) :: rest
    | .eq => (p, d) :: rest
    | .gt => (p, e) :: placeDocument path d rest

/-- The documents and failures of the files indexed so far. -/
structure Indexer where
  /-- Documents by path, in the order of their paths. -/
  documents : List (String × Document) := []
  /-- Failures in the order they were met. -/
  failures : List LoadFailure := []
  deriving Repr

namespace Indexer

/-- Records the outcome of reading a file: a document replaces whatever the path had; a failure
removes the path's document. -/
def record (ix : Indexer) (path : String) (r : Except IndexError Document) : Indexer :=
  match r with
  | .ok d =>
    { documents := placeDocument path d ix.documents
      failures := ix.failures.filter fun f => !Files.samePath f.path path }
  | .error e =>
    { documents := ix.documents.filter fun x => !Files.samePath x.1 path
      failures := ix.failures ++ [⟨path, e.message⟩] }

/-- Forgets everything. -/
def clear (_ : Indexer) : Indexer := {}

/-- Reads one file of a tree and records what it gave; answers whether it could be read. -/
def indexFile (ix : Indexer) (t : Files.Tree) (path : String) : Except IndexError Unit × Indexer :=
  let r := loadDocument t path
  (r.map fun _ => (), ix.record path r)

/-- One call on an indexer: reading a file of the tree as it is at the time of the call, or
forgetting everything. -/
inductive Call where
  | indexFile (t : Files.Tree) (path : String)
  | clear

/-- The indexer after one call. -/
def call (ix : Indexer) : Call → Indexer
  | .indexFile t path => (ix.indexFile t path).2
  | .clear => ix.clear

/-- The indexer after calls one after another. -/
def perform (ix : Indexer) (cs : List Call) : Indexer :=
  cs.foldl call ix

/-- The collection of the documents' catalogs, in the order of their paths: a document without
a language is skipped, and so is one whose language is already found with that spelling, or
that is no catalog. -/
def catalogs (ix : Indexer) : Collection :=
  ix.documents.foldl (fun set (_, d) =>
    match d.language with
    | none => set
    | some lang =>
      if (set.get? lang).any (·.language == some lang) then set
      else match Catalog.ofDocument d with
        | .ok c => (set.insert lang c).2
        | .error _ => set) {}

end Indexer

/-- The catalog files below a directory, given by its names below the root, with the ignore
layers of the directories above it, the nearest first: what the ignore files ignore, and
directories that the matcher excludes, are left out. The fuel bounds the depth. -/
def catalogFilesFrom (t : Files.Tree) (m : FileMatcher) (root : String) :
    Nat → List IgnoreLayer → List String → List String
  | 0, _, _ => []
  | fuel + 1, above, rel =>
    let dir := Files.names root ++ rel
    let layers := IgnoreLayer.ofTree t dir :: above
    (t.children dir).flatMap fun n =>
      let childRel := rel ++ [n]
      let relative := "/".intercalate childRel
      match t.findNames (dir ++ [n]) with
      | .directory =>
        if isIgnored layers (dir ++ [n]) true || m.isExcluded relative then []
        else catalogFilesFrom t m root fuel layers childRel
      | .file _ =>
        if !isIgnored layers (dir ++ [n]) false && m.isCatalog relative then
          [Files.join root childRel]
        else []
      | _ => []

/-- The ignore layers of the directories above a path, the nearest first. -/
def layersAbove (t : Files.Tree) (names : List String) : List IgnoreLayer :=
  ((List.range names.length).map fun k => IgnoreLayer.ofTree t (names.take k)).reverse

/-- The catalog files of a workspace, in the order of their paths. -/
def catalogFiles (t : Files.Tree) (m : FileMatcher) (root : String) : List String :=
  let depth := (t.entries.map (·.1.length)).foldl max 0
  let above := layersAbove t (Files.names root)
  (catalogFilesFrom t m root (depth + 1) above []).mergeSort fun a b => Files.comparePaths a b != .gt

/-- Indexes a workspace with its settings: the number of files read, and the indexer. -/
def indexWorkspace (t : Files.Tree) (root : String) (s : Settings) :
    Except IndexError (Nat × Indexer) := do
  if !t.isDirectory root then throw (.invalidRoot root)
  let m ← match FileMatcher.ofSettings s with
    | .ok m => pure m
    | .error e => throw (.matcher e)
  let files := catalogFiles t m root
  if s.threads.any (· > maxReaders) then throw .tooManyReaders
  let outcomes := files.map fun p => (p, loadDocument t p)
  let loaded := (outcomes.filter fun (_, r) => r.toBool).length
  pure (loaded, outcomes.foldl (fun ix (p, r) => ix.record p r) {})

end Phrasebook
