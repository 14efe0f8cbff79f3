import Phrasebook.Files.Tree
import Phrasebook.Glob.Strategy
import Phrasebook.Text.Blank

/-! # Ignore files

A directory may hold an ignore file, `.ignore`, whose lines are rules about the paths below the
directory; inside a git repository its `.gitignore` and the repository's `info/exclude` give
rules too. A line that begins with `#` is a comment, and white space at the end of a line is
dropped unless a backslash keeps the last blank. A rule that begins with `!` keeps what earlier
rules ignore; one that ends with `/` is about directories only. A rule whose pattern has no
slash (a leading one apart) is about a name at any depth; otherwise it is about the path from
the directory, and a leading slash only anchors it there. In a rule's pattern, `?` and `*` stay
within a path component. A line whose pattern cannot be read gives no rule, and the lines of a
file end at the first that is no UTF-8 text.

Of one file's rules, the last that matches a path decides. Of the directories that hold a path,
the nearest whose ignore file decides has the say; only when no ignore file decides do the
`.gitignore` files, and then the repository's exclude file, have theirs, counting directories
up to the repository's top.
-/

namespace Phrasebook

/-- A rule of an ignore file. -/
structure IgnoreRule where
  pattern : Glob.Pattern
  /-- A rule that begins with `!` keeps what it matches. -/
  keeps : Bool
  /-- A rule that ends with `/` is about directories only. -/
  directoriesOnly : Bool
  deriving Repr

namespace IgnoreRule

/-- The characters of a line without the white space at its end. -/
def trimEnd (cs : List Char) : List Char :=
  (cs.reverse.dropWhile Text.isWhite).reverse

/-- The pattern a rule's text stands for: a text without a slash is about a name at any depth,
and a pattern that ends in `/**` is about what lies inside, not the directory itself. -/
def patternText (anchored : Bool) (body : List Char) : List Char :=
  let atAnyDepth := !anchored && !body.contains '/' &&
    !(body.take 3 == ['*', '*', '/'] || body == ['*', '*'])
  let text := if atAnyDepth then ['*', '*', '/'] ++ body else body
  if text.length ≥ 3 && text.drop (text.length - 3) == ['/', '*', '*'] then text ++ ['/', '*']
  else text

/-- The rule of a line of an ignore file, if the line has one. -/
def ofLine (line : String) : Option IgnoreRule :=
  let cs := line.toList
  if cs.head? == some '#' then none
  else
    let cs := if cs.length ≥ 2 && cs.drop (cs.length - 2) == ['\\', ' '] then cs else trimEnd cs
    if cs.isEmpty then none
    else
      let (keeps, anchored, body) :=
        match cs with
        | '\\' :: '!' :: rest => (false, false, '!' :: rest)
        | '\\' :: '#' :: rest => (false, false, '#' :: rest)
        | '!' :: '/' :: rest => (true, true, rest)
        | '!' :: rest => (true, false, rest)
        | '/' :: rest => (false, true, rest)
        | _ => (false, false, cs)
      let (directoriesOnly, body) :=
        if body.getLast? == some '/' then
          let b := body.dropLast
          (true, if b.getLast? == some '\\' then b.dropLast else b)
        else (false, body)
      match Glob.Pattern.ofComponentText (String.ofList (patternText anchored body)) with
      | .ok pattern => some { pattern, keeps, directoriesOnly }
      | .error _ => none

end IgnoreRule

/-- The byte of a carriage return. -/
def carriageReturn : UInt8 := 13

/-- The pieces of bytes between line feeds, each with whether a line feed ends it. -/
def splitLines : List UInt8 → List (List UInt8 × Bool)
  | [] => [([], false)]
  | b :: bs =>
    if b == Glob.lineFeed then ([], true) :: splitLines bs
    else match splitLines bs with
      | (l, ended) :: rest => (b :: l, ended) :: rest
      | [] => [([b], false)]

/-- The lines of a file, as a reader of lines gives them: split at line feeds, a carriage
return before a line feed dropped, no empty line after the last line feed, and ending at the
first line that is no UTF-8 text. A byte order mark at the start is dropped. -/
def textLines (bs : List UInt8) : List String :=
  let pieces := (splitLines bs).filter fun (l, ended) => ended || !l.isEmpty
  let lines := pieces.map fun (l, ended) =>
    if ended && l.getLast? == some carriageReturn then l.dropLast else l
  let texts := (lines.map fun l => String.fromUTF8? (ByteArray.mk l.toArray)).takeWhile
    (·.isSome)
  match texts.filterMap id with
  | first :: rest => String.ofList (first.toList.dropWhile (· == '\uFEFF')) :: rest
  | [] => []

/-- The rules of an ignore file's bytes, in the order of its lines. -/
def ignoreRules (bs : List UInt8) : List IgnoreRule :=
  (textLines bs).filterMap IgnoreRule.ofLine

/-- What the last of the rules that match a path says: `some true` to ignore it, `some false`
to keep it, `none` when no rule matches. -/
def ignoreVerdict (rules : List IgnoreRule) (path : String) (isDirectory : Bool) :
    Option Bool :=
  rules.foldl (fun v r =>
    if (!r.directoriesOnly || isDirectory) && r.pattern.admits path then some !r.keeps
    else v) none

/-- The rules that one directory's files give. -/
structure IgnoreLayer where
  /-- The names of the directory's path. -/
  dir : List String
  /-- The rules of its `.ignore`. -/
  ignoreFile : List IgnoreRule
  /-- The rules of its `.gitignore`. -/
  gitFile : List IgnoreRule
  /-- The rules of its repository's `info/exclude`, when it is a repository's top. -/
  excludeFile : List IgnoreRule
  /-- Whether it is a repository's top: it holds `.git`. -/
  isRepository : Bool
  deriving Repr

namespace IgnoreLayer

/-- The rules of a file of a tree; none when it is no file. -/
def rulesAt (t : Files.Tree) (ns : List String) : List IgnoreRule :=
  match t.findNames ns with
  | .file c => ignoreRules c.toBytes
  | _ => []

/-- The rules that a directory of a tree gives. -/
def ofTree (t : Files.Tree) (dir : List String) : IgnoreLayer :=
  let git := t.findNames (dir ++ [".git"])
  let isRepository := match git with
    | .file _ | .directory => true
    | _ => false
  { dir
    ignoreFile := rulesAt t (dir ++ [".ignore"])
    gitFile := rulesAt t (dir ++ [".gitignore"])
    excludeFile := if git == .directory then rulesAt t (dir ++ [".git", "info", "exclude"]) else []
    isRepository }

/-- The path of an entry from the directory. -/
def relative (l : IgnoreLayer) (names : List String) : String :=
  "/".intercalate (names.drop l.dir.length)

end IgnoreLayer

/-- The layers whose git files count: those up to the nearest repository's top. -/
def repositoryLayers : List IgnoreLayer → List IgnoreLayer
  | [] => []
  | l :: ls => if l.isRepository then [l] else l :: repositoryLayers ls

/-- Whether an entry is ignored, given the layers of the directories that hold it, the nearest
first. -/
def isIgnored (layers : List IgnoreLayer) (names : List String) (isDirectory : Bool) : Bool :=
  let byIgnore := layers.findSome? fun l =>
    ignoreVerdict l.ignoreFile (l.relative names) isDirectory
  let inRepository := layers.any (·.isRepository)
  let byGit := if inRepository then (repositoryLayers layers).findSome? fun l =>
      ignoreVerdict l.gitFile (l.relative names) isDirectory
    else none
  let byExclude := if inRepository then (repositoryLayers layers).findSome? fun l =>
      ignoreVerdict l.excludeFile (l.relative names) isDirectory
    else none
  ((byIgnore <|> byGit) <|> byExclude) == some true

end Phrasebook
