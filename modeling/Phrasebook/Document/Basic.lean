import Phrasebook.Document.Line

/-! # Catalog documents

A document is the content of one catalog file: a format version, the language of its target
texts, the language of its source texts, and a list of contexts. A context groups entries under
a name (usually the class whose texts they are). An entry pairs a source text with its target:
one text, or for texts that depend on a count, one text per plural form.
-/

namespace Phrasebook

/-- How far an entry's target is from being used. -/
inductive Status where
  /-- Done; used at run time. -/
  | finished
  /-- Still to be done or checked; used only when asked for. -/
  | unfinished
  /-- Its source text has gone from the program. -/
  | vanished
  /-- Its source text has gone from the program (older spelling). -/
  | obsolete
  deriving Repr, DecidableEq, BEq

namespace Status

/-- The status named by a `type` attribute: none or empty means finished. -/
def ofAttribute : Option String → Option Status
  | none => some .finished
  | some "" => some .finished
  | some "unfinished" => some .unfinished
  | some "vanished" => some .vanished
  | some "obsolete" => some .obsolete
  | some _ => none

/-- The `type` attribute that names the status; a finished entry has none. -/
def typeValue : Status → Option String
  | .finished => none
  | .unfinished => some "unfinished"
  | .vanished => some "vanished"
  | .obsolete => some "obsolete"

/-- The status's name in lower camel case. -/
def name : Status → String
  | .finished => "finished"
  | .unfinished => "unfinished"
  | .vanished => "vanished"
  | .obsolete => "obsolete"

/-- Vanished and obsolete entries are gone from the program. -/
def isGone : Status → Bool
  | .vanished => true
  | .obsolete => true
  | _ => false

end Status

/-- The target of an entry: one text, or one text per plural form. -/
inductive Target where
  /-- A single target text. -/
  | plain (text : String)
  /-- One text per plural form of the target language. -/
  | plural (forms : List String)
  deriving Repr, DecidableEq, BEq

namespace Target

/-- The texts of the target, in order. -/
def texts : Target → List String
  | .plain t => [t]
  | .plural fs => fs

/-- Whether the target has plural forms. -/
def isPlural : Target → Bool
  | .plural _ => true
  | .plain _ => false

/-- Whether every text of the target is empty (a plural target without forms is empty). -/
def isEmpty (t : Target) : Bool :=
  t.texts.all (·.isEmpty)

end Target

/-- One source text and its target. -/
structure Entry where
  source : String := ""
  /-- Tells apart entries with the same source text in one context. -/
  disambiguation : Option String := none
  target : Target := .plain ""
  status : Status := .finished
  translatorComment : Option String := none
  extraComment : Option String := none
  locations : List Location := []
  deriving Repr, DecidableEq, BEq

/-- Entries under one name. -/
structure Context where
  name : String := ""
  entries : List Entry := []
  deriving Repr, DecidableEq, BEq

/-- The content of one catalog file. -/
structure Document where
  version : String := "2.1"
  language : Option String := none
  sourceLanguage : Option String := none
  contexts : List Context := []
  deriving Repr, DecidableEq, BEq

end Phrasebook
