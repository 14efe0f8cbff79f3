import Phrasebook.Check.Levels
import Phrasebook.Document.Json
import Phrasebook.Text.Quoted

/-! # Diagnostics

A diagnostic is one finding of a check: its level, its kind, where it is (context, source text
and first location of the entry, all absent for a finding about the whole document) and a
sentence. It is written as `level[kind] context "source" (location): sentence`, leaving out the
parts that are absent.
-/

namespace Phrasebook

/-- The kinds of finding. -/
inductive FindingKind where
  | duplicateEntry
  | unfinished
  | emptyTarget
  | pluralFormCount
  | missingCountPlaceholder
  | placeholderMismatch
  | unknownPluralRule
  deriving Repr, DecidableEq, BEq

namespace FindingKind

/-- The code that names the kind. -/
def code : FindingKind → String
  | .duplicateEntry => "duplicate-entry"
  | .unfinished => "unfinished-translation"
  | .emptyTarget => "empty-translation"
  | .pluralFormCount => "plural-form-count"
  | .missingCountPlaceholder => "missing-count-placeholder"
  | .placeholderMismatch => "placeholder-mismatch"
  | .unknownPluralRule => "unknown-plural-rule"

end FindingKind

/-- One finding. -/
structure Diagnostic where
  severity : Severity
  kind : FindingKind
  context : Option String := none
  sourceText : Option String := none
  location : Option Location := none
  message : String
  deriving Repr, DecidableEq, BEq

namespace Diagnostic

/-- Whether the finding is an error. -/
def isError (d : Diagnostic) : Bool :=
  d.severity == .error

/-- The one-line form of the finding. -/
def render (d : Diagnostic) : String :=
  d.severity.name ++ "[" ++ d.kind.code ++ "]"
    ++ ((d.context.map (" " ++ ·)).getD "")
    ++ ((d.sourceText.map fun s => " " ++ Text.quote s).getD "")
    ++ ((d.location.map fun l => " (" ++ l.render ++ ")").getD "")
    ++ ": " ++ d.message

open Json in
/-- The JSON form of the finding; absent parts are left out. -/
def toJson (d : Diagnostic) : Value :=
  .obj ([("severity", .str d.severity.name), ("code", .str d.kind.code)]
    ++ (d.context.map fun c => ("context", Value.str c)).toList
    ++ (d.sourceText.map fun s => ("sourceText", Value.str s)).toList
    ++ (d.location.map fun l => ("location", l.toJson)).toList
    ++ [("message", .str d.message)])

end Diagnostic

end Phrasebook
