import Phrasebook.Glob.Match

/-! # How a set of patterns decides a path

A set of patterns does not always test a path against a pattern's language: a pattern of a
plain shape is decided by a plain test on the path's bytes, its last name or its extension.
The shapes are tried in a fixed order, and the first that fits decides:

* `**/` and then a literal name without a slash: the path's last name is that name;
* a literal: the path is that text;
* `*.ext` (or `**/*.ext`), where `ext` is literal without a dot or a slash: the path's extension
  is `.ext` (when `*` stays within a component, only after `**/`);
* a literal and then `*` or `/**`: the path starts with the literal (and a slash, for `/**`);
  not for a trailing `*` that stays within a component;
* `*` (or `**/`, or `**/*`) and then a literal: the path ends with the literal; after `**/`
  directly, the path may also be the literal alone; not for a leading `*` that stays within a
  component;
* a pattern ending in a literal `.ext` without a slash: the path's extension is `.ext` and the
  path is in the pattern's language;
* any other pattern: the path is in its language.

The last name of a path is what follows its last slash; a path that is empty or whose last name
is `..` has none. The extension is what follows the last dot of the last name, from the dot on.
The plain tests differ from the languages on such paths: `?.` does not match `..`, though its
language holds it.
-/

namespace Phrasebook.Glob

/-- The parts of a path that the plain tests look at. -/
structure Candidate where
  /-- The bytes of the path. -/
  path : List UInt8
  /-- The last name of the path; empty when it has none. -/
  lastName : List UInt8
  /-- The last name from its last dot on; empty when it has no dot. -/
  extension : List UInt8
  deriving Repr

/-- The byte of a dot. -/
def dot : UInt8 := 46

namespace Candidate

/-- The bytes after the last slash of a path. -/
def afterLastSlash (bs : List UInt8) : List UInt8 :=
  (bs.reverse.takeWhile (· != slash)).reverse

/-- The bytes from the last dot on; empty when there is no dot. -/
def fromLastDot (bs : List UInt8) : List UInt8 :=
  if bs.contains dot then dot :: (bs.reverse.takeWhile (· != dot)).reverse else []

/-- The parts of a path. -/
def ofPath (s : String) : Candidate :=
  let path := s.toUTF8.toList
  let name := afterLastSlash path
  let lastName := if path.isEmpty || name == [dot, dot] then [] else name
  { path, lastName, extension := fromLastDot lastName }

end Candidate

/-- The test that decides whether a path matches a pattern. -/
inductive Strategy where
  /-- The path's last name is the text. -/
  | lastName (text : List UInt8)
  /-- The path is the text. -/
  | whole (text : List UInt8)
  /-- The path's extension is the text. -/
  | extension (text : List UInt8)
  /-- The path starts with the text. -/
  | startsWith (text : List UInt8)
  /-- The path ends with the text, or, when `orRest` holds, is the text without its first
  byte. -/
  | endsWith (text : List UInt8) (orRest : Bool)
  /-- The path's extension is the text and the path is in the pattern's language. -/
  | extensionAndLanguage (text : List UInt8)
  /-- The path is in the pattern's language. -/
  | language
  deriving Repr, DecidableEq

/-- The characters of tokens that are all literals. -/
def literals : List Token → Option (List Char)
  | [] => some []
  | .literal c :: ts => (literals ts).map (c :: ·)
  | _ :: _ => none

/-- The bytes of characters. -/
def charsBytes (cs : List Char) : List UInt8 :=
  (String.ofList cs).toUTF8.toList

/-- Whether tokens are one trailing `*` or `/**` after a literal, and the literal to test. -/
def prefixText (sameComponent : Bool) (ts : List Token) : Option (List Char) :=
  match ts.getLast? with
  | none => none
  | some last =>
    let lit := match last with
      | .zeroOrMore => if sameComponent then none else (literals ts.dropLast)
      | .recursiveSuffix => (literals ts.dropLast).map (· ++ ['/'])
      | _ => literals ts
    lit.filter (!·.isEmpty)

/-- The literal that a path must end with, and whether the path may also be it without its
leading slash. -/
def suffixText (sameComponent : Bool) (ts : List Token) : Option (List Char × Bool) :=
  let (lead, orRest, rest) := match ts with
    | .recursivePrefix :: (.literal c :: more) => (['/'], true, Token.literal c :: more)
    | .recursivePrefix :: more => ([], false, more)
    | more => ([], false, more)
  let rest := match rest with
    | .zeroOrMore :: more => if sameComponent then none else some more
    | [] => none
    | more => some more
  match rest.bind literals with
  | some cs =>
    let text := lead ++ cs
    if text.isEmpty || text == ['/'] then none else some (text, orRest)
  | none => none

/-- The literal `.ext` that a pattern ends with, when it ends with one without a slash. -/
def requiredExtension : List Token → List Char → Option (List Char)
  | [], _ => none
  | .literal '/' :: _, _ => none
  | .literal '.' :: _, acc => some ('.' :: acc)
  | .literal c :: ts, acc => requiredExtension ts (c :: acc)
  | _ :: _, _ => none

/-- The literal after `*.` (or `**/*.`) when it has no dot or slash. -/
def extensionText (sameComponent : Bool) (ts : List Token) : Option (List Char) :=
  let (anchored, rest) := match ts with
    | .recursivePrefix :: more => (false, more)
    | more => (true, more)
  match rest with
  | .zeroOrMore :: .literal '.' :: more =>
    if anchored && sameComponent then none
    else
      match literals more with
      | some cs => if cs.contains '.' || cs.contains '/' then none else some ('.' :: cs)
      | none => none
  | _ => none

/-- The name after a leading `**/` when the rest is a literal without a slash. -/
def lastNameText : List Token → Option (List Char)
  | .recursivePrefix :: rest =>
    match literals rest with
    | some cs => if cs.isEmpty || cs.contains '/' then none else some cs
    | none => none
  | _ => none

namespace Pattern

/-- The test that decides whether a path matches the pattern. -/
def strategy (g : Pattern) : Strategy :=
  let ts := g.tokens
  let c := g.withinComponent
  match lastNameText ts with
  | some cs => .lastName (charsBytes cs)
  | none =>
  match (literals ts).filter (!·.isEmpty) with
  | some cs => .whole (charsBytes cs)
  | none =>
  match extensionText c ts with
  | some cs => .extension (charsBytes cs)
  | none =>
  match prefixText c ts with
  | some cs => .startsWith (charsBytes cs)
  | none =>
  match suffixText c ts with
  | some (cs, orRest) => .endsWith (charsBytes cs) orRest
  | none =>
  match requiredExtension ts.reverse [] with
  | some cs => .extensionAndLanguage (charsBytes cs)
  | none => .language

/-- Whether a path matches the pattern, as a set of patterns decides it. -/
def admits (g : Pattern) (path : String) : Bool :=
  let c := Candidate.ofPath path
  match g.strategy with
  | .lastName text => !c.lastName.isEmpty && c.lastName == text
  | .whole text => c.path == text
  | .extension text => !c.extension.isEmpty && c.extension == text
  | .startsWith text => text.isPrefixOf c.path
  | .endsWith text orRest => text.isSuffixOf c.path || (orRest && c.path == text.drop 1)
  | .extensionAndLanguage text =>
    !c.extension.isEmpty && c.extension == text && g.accepts path
  | .language => g.accepts path

end Pattern

/-- Whether a path matches any of the patterns. -/
def matchesAny (patterns : List Pattern) (path : String) : Bool :=
  patterns.any (·.admits path)

end Phrasebook.Glob
