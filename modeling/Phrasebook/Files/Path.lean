/-! # Paths

A path is read as a list of parts separated by `/`. Empty parts and `.` parts vanish, except a
`.` at the very start of a relative path; a leading `/` is the root. The file name of a path is
its last part when that is an ordinary name; the parent is the path without its last part.

Two texts are the same path when they have the same parts: `a//b`, `a/./b` and `a/b/` are all
`a/b`, while `..` stays a part of its own and `/a` differs from `a`. Paths are ordered part by
part: the root first, then a leading `.`, then `..`, then names in the order of their text. The
stem of a file name is the name without its extension: the text before the last `.`, unless the
only `.` opens the name.
-/

namespace Phrasebook.Files

/-- A part of a path. -/
inductive PathPart where
  /-- The leading `/`. -/
  | root
  /-- A leading `.`. -/
  | here
  /-- `..` -/
  | up
  /-- An ordinary name. -/
  | name (s : String)
  deriving Repr, DecidableEq

/-- The parts of a path. -/
def parts (p : String) : List PathPart :=
  let pieces := p.splitOn "/"
  let lead : List PathPart :=
    if p.startsWith "/" then [.root]
    else match pieces with
      | "." :: _ => [.here]
      | _ => []
  lead ++ (pieces.filter fun s => s ≠ "" ∧ s ≠ ".").map fun s => if s = ".." then .up else .name s

/-- The rank of a kind of part in the order of paths: the root, a leading `.`, `..`, then names. -/
def PathPart.rank : PathPart → Nat
  | .root => 0
  | .here => 1
  | .up => 2
  | .name _ => 3

/-- The text of a part that is an ordinary name; the empty text for the others. -/
def PathPart.text : PathPart → String
  | .name s => s
  | _ => ""

/-- Parts in the order of paths: by kind, and names by their text. -/
def PathPart.compare (a b : PathPart) : Ordering :=
  compareLex (compareOn PathPart.rank) (compareOn PathPart.text) a b

/-- Paths in order, part by part; a path comes before the paths that go on from it. -/
def comparePaths (p q : String) : Ordering :=
  List.compareLex PathPart.compare (parts p) (parts q)

/-- Whether two texts name the same path: they have the same parts. -/
def samePath (p q : String) : Bool :=
  parts p == parts q

/-- The last part of a path, when it is an ordinary name. -/
def fileName (p : String) : Option String :=
  match (parts p).getLast? with
  | some (.name s) => some s
  | _ => none

/-- The name of the directory that holds a path's last part, when it is an ordinary name. -/
def parentName (p : String) : Option String :=
  match (parts p).reverse with
  | .root :: _ => none
  | _ :: (.name s) :: _ => some s
  | _ => none

/-- A file name without its extension. -/
def stemOf (name : String) : String :=
  if name = ".." then name
  else
    match (name.splitOn ".").reverse with
    | [_] => name
    | _ :: before =>
      let b := ".".intercalate before.reverse
      if b.isEmpty then name else b
    | [] => name

/-- The stem of a path's file name. -/
def fileStem (p : String) : Option String :=
  (fileName p).map stemOf

end Phrasebook.Files
