import Phrasebook.Cli.Run

/-! # The program

Reads the command line, gathers the files a command needs into a tree (for a workspace: its
settings file, and the catalog files below its root, leaving out excluded directories), runs the
command over the tree, writes back a file the command wrote, and prints what it printed. A
usage error ends the program with code 2, a failed run with code 1.
-/

namespace Phrasebook.Program

/-- Whether a path is a directory of the file system. -/
def isDirectoryPath (s : String) : IO Bool := do
  let base ← IO.currentDir
  let p := { base with toString := s }
  p.isDir

/-- The entries of a directory of the file system; none when it cannot be listed. -/
def listing (s : String) : IO (Array IO.FS.DirEntry) := do
  let base ← IO.currentDir
  let p := { base with toString := s }
  try p.readDir catch _ => pure #[]

/-- What the file system holds at a path, if anything. -/
def nodeAt (s : String) : IO (Option Files.Node) := do
  if ← isDirectoryPath s then return some .directory
  match ← (IO.FS.readBinFile s).toBaseIO with
  | .ok bytes => return some (.file (.bytes bytes.toList))
  | .error _ => return none

/-- Adds what the file system holds at a path to a tree. -/
def addPath (t : Files.Tree) (s : String) : IO Files.Tree := do
  match ← nodeAt s with
  | some n => return { entries := t.entries ++ [(Files.names s, n)] }
  | none => return t

/-- Adds a directory's ignore files to a tree: its `.ignore` and `.gitignore`, its `.git`, and
the exclude file of the repository there. -/
def addIgnoreFiles (dir : String) (t : Files.Tree) : IO Files.Tree := do
  let mut tree := t
  for name in [".ignore", ".gitignore", ".git"] do
    tree ← addPath tree (Files.join dir [name])
  addPath tree (Files.join dir [".git", "info", "exclude"])

/-- Adds the catalog files below a directory (given by its names below the root) to a tree, with
the ignore files on the way. -/
partial def addCatalogs (m : FileMatcher) (root : String) (rel : List String) (t : Files.Tree) :
    IO Files.Tree := do
  let entries ← listing (Files.join root rel)
  let mut tree ← addIgnoreFiles (Files.join root rel) t
  for e in entries do
    let childRel := rel ++ [e.fileName]
    let child := Files.join root childRel
    let relative := "/".intercalate childRel
    if ← isDirectoryPath child then
      tree := { entries := tree.entries ++ [(Files.names child, .directory)] }
      if !m.isExcluded relative then
        tree ← addCatalogs m root childRel tree
    else if m.isCatalog relative then
      tree ← addPath tree child
  return tree

/-- The files of a workspace that its commands read. -/
def workspaceTree (root : String) : IO Files.Tree := do
  let t ← addPath {} root
  let t ← addPath t (Files.join root [settingsFileName])
  match Settings.load t root with
  | .error _ => return t
  | .ok s =>
    match FileMatcher.ofSettings s with
    | .error _ => return t
    | .ok m => if t.isDirectory root then addCatalogs m root [] t else return t

/-- The files a command reads or writes. -/
def treeFor : Cli.Command → IO Files.Tree
  | .help => pure {}
  | .check root _ => workspaceTree root
  | .report root _ => workspaceTree root
  | .lookup q => do
    if ← isDirectoryPath q.target then workspaceTree q.target else addPath {} q.target
  | .normalize file output => do
    let t ← addPath {} file
    match output with
    | some out =>
      let t ← addPath t out
      let parent := match (out.splitOn "/").dropLast with
        | [] => "."
        | [""] => "/"
        | ps => "/".intercalate ps
      addPath t parent
    | none => pure t

/-- The language of the system: the first entry of `LANGUAGE` when it is set, else the first of
the other locale variables that is set. -/
def systemLocale : IO (Option String) := do
  if let some value := ← IO.getEnv "LANGUAGE" then
    if !value.isEmpty then return some ((value.splitOn ":").headD "")
  for v in ["LC_ALL", "LC_MESSAGES", "LANG"] do
    if let some value := ← IO.getEnv v then
      if !value.isEmpty then return some value
  return none

end Phrasebook.Program

open Phrasebook in
/-- Runs the program. -/
def main (argv : List String) : IO UInt32 := do
  match Cli.parse argv with
  | .error e =>
    IO.eprintln ("error: " ++ e.withUsage)
    return 2
  | .ok inv =>
    if let some log := inv.logFile then
      let h ← IO.FS.Handle.mk log .append
      h.flush
    let t ← Program.treeFor inv.command
    let locale ← Program.systemLocale
    match Cli.run t locale inv.command with
    | .error e =>
      IO.eprintln ("error: " ++ e.message)
      return 1
    | .ok r =>
      if let .normalize _ (some out) := inv.command then
        match r.files.find out with
        | .file c => IO.FS.writeFile out (c.asText.getD "")
        | _ => pure ()
      IO.print r.output
      return (if r.outcome == .success then 0 else 1)
