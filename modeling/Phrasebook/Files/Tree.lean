import Phrasebook.Files.Fault
import Phrasebook.Files.Path

/-! # A tree of files

The files a program sees: each path names a file with its bytes (or text), or a directory. A
directory exists when it is named, or when a file or directory lies below it. A path is looked
up by its names, with `..` going up a level; reading it fails when it does not exist, when it is
a directory, when a name on the way is a file, or when its bytes are no UTF-8 text. Writing a
file needs its directory to exist.
-/

namespace Phrasebook.Files

/-- The content of a file. -/
inductive Content where
  | text (s : String)
  | bytes (bs : List UInt8)
  deriving Repr, DecidableEq

namespace Content

/-- The content as text, if it is UTF-8. -/
def asText : Content → Option String
  | .text s => some s
  | .bytes bs => String.fromUTF8? (ByteArray.mk bs.toArray)

/-- The bytes of the content. -/
def toBytes : Content → List UInt8
  | .text s => s.toUTF8.toList
  | .bytes bs => bs

end Content

/-- What a path holds. -/
inductive Node where
  | file (c : Content)
  | directory
  deriving Repr, DecidableEq

/-- The names of a path, `..` going up a level. -/
def names (p : String) : List String :=
  (parts p).foldl (fun acc part =>
    match part with
    | .name s => acc ++ [s]
    | .up => acc.dropLast
    | _ => acc) []

/-- A path made of a base path and names below it. -/
def join (base : String) (rest : List String) : String :=
  rest.foldl (fun acc n => if acc.endsWith "/" then acc ++ n else acc ++ "/" ++ n) base

/-- Whether the names of one path begin with those of another. -/
def isPrefix : List String → List String → Bool
  | [], _ => true
  | _, [] => false
  | a :: as, b :: bs => a == b && isPrefix as bs

/-- What a lookup finds at a path. -/
inductive Found where
  | file (c : Content)
  | directory
  /-- Nothing is there. -/
  | missing
  /-- A name on the way is a file. -/
  | blocked
  deriving Repr, DecidableEq

/-- Files and directories by the names of their paths. -/
structure Tree where
  entries : List (List String × Node) := []
  deriving Repr

namespace Tree

/-- What a tree holds at a list of names. -/
def findNames (t : Tree) (ns : List String) : Found :=
  match t.entries.find? (fun e => e.1 == ns) with
  | some (_, .file c) => .file c
  | some (_, .directory) => .directory
  | none =>
    if t.entries.any (fun e => isPrefix ns e.1 && e.1 != ns) then .directory
    else if t.entries.any (fun e => isPrefix e.1 ns && e.1 != ns && e.2 != .directory) then .blocked
    else .missing

/-- What a tree holds at a path. -/
def find (t : Tree) (p : String) : Found :=
  t.findNames (names p)

/-- Whether a path is a directory. -/
def isDirectory (t : Tree) (p : String) : Bool :=
  t.find p == .directory

/-- Whether something exists at a path. -/
def has (t : Tree) (p : String) : Bool :=
  match t.find p with
  | .file _ => true
  | .directory => true
  | _ => false

/-- Reads a file as text. -/
def read (t : Tree) (p : String) : Except FileFault String :=
  match t.find p with
  | .file c => match c.asText with
    | some s => .ok s
    | none => .error .notText
  | .directory => .error .isDirectory
  | .missing => .error .notFound
  | .blocked => .error .notDirectory

/-- Writes text to a file, which is made or replaced. -/
def write (t : Tree) (p : String) (s : String) : Except FileFault Tree :=
  let ns := names p
  match t.findNames ns with
  | .directory => .error .isDirectory
  | .blocked => .error .notDirectory
  | _ =>
    match t.findNames ns.dropLast with
    | .directory => .ok { entries := (t.entries.filter fun e => e.1 != ns) ++ [(ns, .file (.text s))] }
    | .blocked => .error .notDirectory
    | .file _ => .error .notDirectory
    | .missing => .error .notFound

/-- The names of the entries directly in a directory, without repeats. -/
def children (t : Tree) (dir : List String) : List String :=
  t.entries.foldl (fun acc e =>
    if isPrefix dir e.1 && e.1.length > dir.length then
      match e.1.drop dir.length with
      | n :: _ => if acc.contains n then acc else acc ++ [n]
      | [] => acc
    else acc) []

/-- The files whose content differs between two trees, or that only the second has, with the
names below a directory and the new text. -/
def changedBelow (before after : Tree) (dir : List String) : List (List String × String) :=
  after.entries.filterMap fun (ns, node) =>
    match node with
    | .file c =>
      if isPrefix dir ns && before.findNames ns != .file c then
        some (ns.drop dir.length, (c.asText.getD ""))
      else none
    | .directory => none

end Tree

end Phrasebook.Files
