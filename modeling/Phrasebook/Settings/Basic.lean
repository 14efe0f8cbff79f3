import Phrasebook.Check.Levels
import Phrasebook.Lookup.Translator
import Phrasebook.Json.Schema
import Phrasebook.Json.Value

/-! # Settings of a workspace

The settings say which files of a workspace are catalogs (glob patterns to include and to
exclude), which directories to leave out, the language of the source texts, the language to
show by default, how lookups treat unfinished entries, how many files are read at once, and the
level of each check. Every setting has a default, and settings are read from JSON data: a
missing field keeps its default, an unknown field is ignored.
-/

namespace Phrasebook

/-- Which files are catalogs. -/
structure CatalogFiles where
  includePatterns : List String := ["**/translations/**/*.ts", "**/*_??.ts", "**/*_??_??.ts"]
  excludePatterns : List String := []
  deriving Repr, DecidableEq

/-- The settings of a workspace. -/
structure Settings where
  catalogFiles : CatalogFiles := {}
  /-- Directories and files left out of the walk. -/
  excludePatterns : List String := ["node_modules/**", "target/**"]
  sourceLanguage : String := "en"
  defaultLanguage : Option String := none
  lookup : LookupOptions := {}
  /-- How many files are read at once; none leaves it to the machine. -/
  threads : Option Nat := none
  checks : CheckLevels := {}
  deriving Repr

namespace Settings

open Json

/-- The shape of a check level. -/
def levelShape : Shape := .choice ["error", "warning", "info", "off"]

/-- The shape of the check levels. -/
def checksShape : Shape :=
  .record "ValidationConfig" [("unfinished", levelShape), ("emptyTranslation", levelShape),
    ("pluralForms", levelShape), ("placeholders", levelShape), ("duplicates", levelShape)]

/-- The shape of the settings, fields in their order. -/
def shape : Shape :=
  .record "CatalogSettings" [
    ("translationFiles", .record "TranslationFilesConfig"
      [("includePatterns", .list .text), ("excludePatterns", .list .text)]),
    ("excludePatterns", .list .text),
    ("sourceLanguage", .text),
    ("defaultLanguage", .optional .text),
    ("lookup", .record "LookupOptions" [("includeUnfinished", .flag)]),
    ("indexing", .record "IndexingConfig" [("numThreads", .optional .count)]),
    ("validation", checksShape)]

/-- The texts of checked data. -/
def textsOf : Datum → List String
  | .arr items => items.filterMap fun | .str s => some s | _ => none
  | _ => []

/-- A level from checked data. -/
def levelOf (fallback : Severity) : Option Datum → Severity
  | some (.str s) => (Severity.ofName? s).getD fallback
  | _ => fallback

/-- The check levels from checked data, defaults where a field is absent. -/
def checksOf (d : Datum) : CheckLevels :=
  let base : CheckLevels := {}
  { unfinished := levelOf base.unfinished (d.field? "unfinished")
    emptyTranslation := levelOf base.emptyTranslation (d.field? "emptyTranslation")
    pluralForms := levelOf base.pluralForms (d.field? "pluralForms")
    placeholders := levelOf base.placeholders (d.field? "placeholders")
    duplicates := levelOf base.duplicates (d.field? "duplicates") }

/-- The settings from checked data, defaults where a field is absent. -/
def ofDatum (d : Datum) : Settings :=
  let base : Settings := {}
  let files := d.field? "translationFiles"
  { catalogFiles :=
      { includePatterns := ((files.bind (·.field? "includePatterns")).map textsOf).getD
          base.catalogFiles.includePatterns
        excludePatterns := ((files.bind (·.field? "excludePatterns")).map textsOf).getD
          base.catalogFiles.excludePatterns }
    excludePatterns := ((d.field? "excludePatterns").map textsOf).getD base.excludePatterns
    sourceLanguage := match d.field? "sourceLanguage" with
      | some (.str s) => s
      | _ => base.sourceLanguage
    defaultLanguage := match d.field? "defaultLanguage" with
      | some (.str s) => some s
      | _ => none
    lookup := match (d.field? "lookup").bind (·.field? "includeUnfinished") with
      | some (.bool b) => { includeUnfinished := b }
      | _ => base.lookup
    threads := match (d.field? "indexing").bind (·.field? "numThreads") with
      | some (.number (.unsigned n)) => some n
      | _ => none
    checks := ((d.field? "validation").map checksOf).getD base.checks }

/-- The JSON of check levels. -/
def checksJson (c : CheckLevels) : Json.Value :=
  .obj [("unfinished", .str c.unfinished.name), ("emptyTranslation", .str c.emptyTranslation.name),
    ("pluralForms", .str c.pluralForms.name), ("placeholders", .str c.placeholders.name),
    ("duplicates", .str c.duplicates.name)]

/-- The JSON of the settings, fields in their order. -/
def toJson (s : Settings) : Json.Value :=
  .obj [
    ("translationFiles", .obj [("includePatterns", .ofStrings s.catalogFiles.includePatterns),
      ("excludePatterns", .ofStrings s.catalogFiles.excludePatterns)]),
    ("excludePatterns", .ofStrings s.excludePatterns),
    ("sourceLanguage", .str s.sourceLanguage),
    ("defaultLanguage", .ofOption s.defaultLanguage),
    ("lookup", .obj [("includeUnfinished", .bool s.lookup.includeUnfinished)]),
    ("indexing", .obj [("numThreads", match s.threads with
      | some n => .num n
      | none => .null)]),
    ("validation", checksJson s.checks)]

end Settings

end Phrasebook
