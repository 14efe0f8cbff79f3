/-! # Severity levels of checks

Each kind of check reports at a level: error, warning or info, or it is off. The levels of
the five kinds of check are part of the settings.
-/

namespace Phrasebook

/-- How much a finding matters. -/
inductive Severity where
  | error
  | warning
  | info
  /-- The check does not run. -/
  | off
  deriving Repr, DecidableEq, BEq

namespace Severity

/-- The level's name. -/
def name : Severity → String
  | .error => "error"
  | .warning => "warning"
  | .info => "info"
  | .off => "off"

/-- The level named by a text. -/
def ofName? : String → Option Severity
  | "error" => some .error
  | "warning" => some .warning
  | "info" => some .info
  | "off" => some .off
  | _ => none

/-- Whether checks at this level run. -/
def isOn : Severity → Bool
  | .off => false
  | _ => true

end Severity

/-- The level of each kind of check. -/
structure CheckLevels where
  unfinished : Severity := .info
  emptyTranslation : Severity := .warning
  pluralForms : Severity := .error
  placeholders : Severity := .error
  duplicates : Severity := .error
  deriving Repr, DecidableEq, BEq

end Phrasebook
