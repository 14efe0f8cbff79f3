import Phrasebook.Catalog.Collection
import Phrasebook.Files.Path

/-! # Finding the language of a catalog

The language of a catalog file can be read from its path. The file's stem is cut at `_`, `-`
and `.` into non-empty parts. A known language (one with a plural rule) followed by a
two-letter region at the end gives `language_region`; else a known language of at most three
letters at the end gives that language; else the name of the directory holding the file, when
it is a known language of at most six letters. Letters keep their case; lengths are counted in
bytes.

The language to show is chosen from candidates in order: the one asked for on the command line,
the configured one, the one of the operating system. The first candidate for which the
collection has a catalog wins; but a candidate with the source language's primary subtag stops
the search, since the source texts are then shown as they are.
-/

namespace Phrasebook.Language

/-- Whether a code names a language with a plural rule. -/
def isKnown (code : String) : Bool :=
  (PluralRule.ofLanguage code).isSome

/-- The pieces of a text between separator characters; `cur` is the piece being read, reversed. -/
def piecesFrom (sep : Char → Bool) (cur : List Char) : List Char → List String
  | [] => [String.ofList cur.reverse]
  | c :: cs =>
    if sep c then String.ofList cur.reverse :: piecesFrom sep [] cs
    else piecesFrom sep (c :: cur) cs

/-- The language that a file's path names. -/
def detect (path : String) : Option String := do
  let stem ← Files.fileStem path
  let pieces := piecesFrom (fun c => c = '_' || c = '-' || c = '.') [] stem.toList
  let pieces := pieces.filter (· ≠ "")
  let fromParts : Option String :=
    match pieces.reverse with
    | region :: lang :: _ =>
      if region.utf8ByteSize = 2 && isKnown lang then some (lang ++ "_" ++ region)
      else if isKnown region && region.utf8ByteSize ≤ 3 then some region else none
    | [last] => if isKnown last && last.utf8ByteSize ≤ 3 then some last else none
    | [] => none
  match fromParts with
  | some l => some l
  | none => (Files.parentName path).filter fun n => n.utf8ByteSize ≤ 6 && isKnown n

/-- The candidate that an operating system locale such as `de_DE.UTF-8@euro` gives: the text
before the first `.` or `@`, with `-` for `_`; an empty locale gives none. -/
def localeCandidate (locale : Option String) : Option String :=
  locale.bind fun l =>
    if l.isEmpty then none
    else some (String.ofList ((l.toList.takeWhile fun c => c ≠ '.' && c ≠ '@').map
      fun c => if c = '_' then '-' else c))

/-- The language to show, from candidates in order of preference. -/
def resolve (candidates : List (Option String)) (source : String) (available : Collection) :
    Option String :=
  let sourcePrimary := primary (normalize source)
  let rec go : List String → Option String
    | [] => none
    | c :: cs =>
      if (available.get? c).isSome then some c
      else if primary (normalize c) = sourcePrimary then none
      else go cs
  go candidates.reduceOption

end Phrasebook.Language
