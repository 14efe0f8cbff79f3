import Phrasebook.Settings.Basic
import Phrasebook.Glob.Strategy

/-! # Which files of a workspace matter

The settings' patterns sort the paths of a workspace, relative to its root: a path is left out
when it matches an exclude pattern, and it is a catalog when it matches a catalog pattern and
neither the exclude patterns nor the catalog exclude patterns.
-/

namespace Phrasebook

/-- A pattern of the settings that is not a glob pattern. -/
inductive MatcherError where
  /-- An exclude pattern, of the workspace or of the catalog files. -/
  | invalidExclude (pattern : String) (e : Glob.GlobError)
  /-- A catalog pattern. -/
  | invalidCatalogPattern (pattern : String) (e : Glob.GlobError)
  deriving Repr

namespace MatcherError

/-- The sentence for the error. -/
def message : MatcherError → String
  | .invalidExclude p e => "Invalid exclude pattern '" ++ p ++ "': " ++ e.message p
  | .invalidCatalogPattern p e => "Invalid translation file pattern '" ++ p ++ "': " ++ e.message p

end MatcherError

/-- The patterns of the settings, read. -/
structure FileMatcher where
  excluded : List Glob.Pattern
  catalogs : List Glob.Pattern
  catalogsExcluded : List Glob.Pattern
  deriving Repr

/-- Reads patterns, naming the first that is not a glob pattern. -/
def readPatterns (blame : String → Glob.GlobError → MatcherError) :
    List String → Except MatcherError (List Glob.Pattern)
  | [] => .ok []
  | p :: ps =>
    match Glob.Pattern.ofText p with
    | .ok g => (readPatterns blame ps).map (g :: ·)
    | .error e => .error (blame p e)

namespace FileMatcher

/-- The matcher of the settings: the exclude patterns are read first, then the catalog patterns,
then the catalog exclude patterns. -/
def ofSettings (s : Settings) : Except MatcherError FileMatcher := do
  let excluded ← readPatterns .invalidExclude s.excludePatterns
  let catalogs ← readPatterns .invalidCatalogPattern s.catalogFiles.includePatterns
  let catalogsExcluded ← readPatterns .invalidExclude s.catalogFiles.excludePatterns
  pure ⟨excluded, catalogs, catalogsExcluded⟩

/-- Whether a relative path is left out. -/
def isExcluded (m : FileMatcher) (path : String) : Bool :=
  Glob.matchesAny m.excluded path

/-- Whether a relative path is a catalog. -/
def isCatalog (m : FileMatcher) (path : String) : Bool :=
  Glob.matchesAny m.catalogs path && !Glob.matchesAny m.excluded path
    && !Glob.matchesAny m.catalogsExcluded path

end FileMatcher

end Phrasebook
