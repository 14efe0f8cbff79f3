import Phrasebook.Files.Fault
import Phrasebook.Markup.Event

/-! # Why a catalog file cannot be read

Reading fails on markup that is not well-formed, on attributes that cannot be read, and on a
document whose elements do not nest as a catalog's must.
-/

namespace Phrasebook

/-- Why a catalog file cannot be read. -/
inductive ReadError where
  /-- The file could not be read. -/
  | file (fault : FileFault)
  /-- The markup is not well-formed. -/
  | markup (e : Markup.MarkupError)
  /-- An attribute that was asked for could not be read. -/
  | attribute (e : Markup.AttrError)
  /-- No `TS` element. -/
  | missingRoot
  /-- A second `TS` element. -/
  | multipleRoots
  /-- The input ends inside an element. -/
  | unexpectedEnd (element : String)
  /-- An element outside the parent it must have. -/
  | misplaced (element parent : String)
  /-- A `type` attribute that names no status. -/
  | unknownStatus (value : String)
  deriving Repr, DecidableEq

namespace ReadError

/-- The sentence that names the error. -/
def message : ReadError → String
  | .file f => "Failed to access translation file: " ++ f.message
  | .markup e => "Malformed XML: " ++ e.message
  | .attribute e => "Malformed XML attribute: " ++ e.message
  | .missingRoot => "Missing <TS> root element"
  | .multipleRoots => "More than one <TS> root element"
  | .unexpectedEnd x => "Unexpected end of document inside <" ++ x ++ ">"
  | .misplaced x p => "Unexpected <" ++ x ++ ">: it must be a direct child of <" ++ p ++ ">"
  | .unknownStatus v => "Unknown translation type '" ++ v ++ "'"

end ReadError

end Phrasebook
