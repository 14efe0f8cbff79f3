import Phrasebook.Settings.Basic
import Phrasebook.Glob.Pattern
import Phrasebook.Text.Blank
import Phrasebook.Json.Reader
import Phrasebook.Files.Fault

/-! # Checking settings

Settings are usable when there is at least one pattern for catalog files, every pattern is a
glob pattern, the source language is not blank, the default language (when given) is not
blank, and the number of threads (when given) is not zero. Each problem names the field it is
in; all problems are listed, in the order of the fields.

Settings are read from the text of the settings file, or from JSON data; a fault in the text, or
in the data, stops the reading.
-/

namespace Phrasebook

/-- A problem with one field of the settings. -/
structure SettingsProblem where
  fieldPath : String
  message : String
  deriving Repr, DecidableEq

namespace SettingsProblem

/-- The sentence for the problem. -/
def render (p : SettingsProblem) : String :=
  "Configuration error in '" ++ p.fieldPath ++ "': " ++ p.message

end SettingsProblem

/-- The problems with the patterns of a field, each under its index. -/
def patternProblems (field : String) (patterns : List String) : List SettingsProblem :=
  (patterns.zip (List.range patterns.length)).filterMap fun (p, i) =>
    match Glob.parse p with
    | .ok _ => none
    | .error e => some ⟨field ++ "[" ++ toString i ++ "]",
        "Invalid glob pattern '" ++ p ++ "': " ++ e.message p⟩

namespace Settings

/-- The problems with the settings, in the order of the fields. -/
def problems (s : Settings) : List SettingsProblem :=
  (if s.catalogFiles.includePatterns.isEmpty then
    [⟨"translationFiles.includePatterns",
      "At least one pattern is required. Example: [\"**/translations/*.ts\"]"⟩]
  else [])
  ++ patternProblems "translationFiles.includePatterns" s.catalogFiles.includePatterns
  ++ patternProblems "translationFiles.excludePatterns" s.catalogFiles.excludePatterns
  ++ patternProblems "excludePatterns" s.excludePatterns
  ++ (if Text.isBlankText s.sourceLanguage then
    [⟨"sourceLanguage", "The language cannot be empty. Example: \"en\""⟩]
  else [])
  ++ (match s.defaultLanguage with
    | some l =>
      if Text.isBlankText l then
        [⟨"defaultLanguage",
          "The language cannot be empty. Specify a language (e.g., \"ru\"), or remove this field"⟩]
      else []
    | none => [])
  ++ (if s.threads = some 0 then
    [⟨"indexing.numThreads",
      "Thread count must be at least 1, or remove this field to use the default"⟩]
  else [])

/-- Whether the settings have no problem. -/
def isValid (s : Settings) : Bool :=
  s.problems.isEmpty

end Settings

/-- Why settings cannot be taken. -/
inductive SettingsError where
  /-- The settings have problems. -/
  | invalid (problems : List SettingsProblem)
  /-- The settings file cannot be read. -/
  | unreadable (fault : FileFault)
  /-- The settings text or data is not settings; the sentence says where. -/
  | malformed (message : String)
  deriving Repr

namespace SettingsError

/-- The sentence for the error. -/
def message : SettingsError → String
  | .invalid ps =>
    "Configuration validation failed:\n" ++ "\n".intercalate
      ((ps.zip (List.range ps.length)).map fun (p, i) =>
        "  " ++ toString (i + 1) ++ ". " ++ p.fieldPath ++ " - " ++ p.message)
  | .unreadable f => "Failed to load configuration file: " ++ f.message
  | .malformed m => "Failed to parse configuration: " ++ m

end SettingsError

namespace Settings

/-- Reads settings from the text of a settings file. -/
def ofText (text : String) : Except SettingsError Settings :=
  match shape.readText text with
  | .ok d => .ok (ofDatum d)
  | .error f => .error (.malformed (f.message text))

/-- Reads settings from JSON data. -/
def ofData (d : Json.Datum) : Except SettingsError Settings :=
  match shape.read d with
  | .ok d => .ok (ofDatum d)
  | .error f => .error (.malformed f.message)

/-- The settings if they have no problem. -/
def checked (s : Settings) : Except SettingsError Settings :=
  if s.problems.isEmpty then .ok s else .error (.invalid s.problems)

end Settings

end Phrasebook
