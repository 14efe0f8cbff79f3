/-! # JSON values

The values that the library writes as JSON: documents, diagnostics, reports and settings. An
object keeps its fields in the order they were given, which is the order they are written in.
-/

namespace Phrasebook.Json

/-- A JSON value. Numbers are integers: the library writes no other numbers. -/
inductive Value where
  | null
  | bool (b : Bool)
  | num (n : Int)
  | str (s : String)
  | arr (items : List Value)
  | obj (fields : List (String × Value))
  deriving Repr, Inhabited

namespace Value

/-- A text, or `null` when there is none. -/
def ofOption (s : Option String) : Value :=
  match s with
  | some t => .str t
  | none => .null

/-- A list of texts. -/
def ofStrings (xs : List String) : Value :=
  .arr (xs.map .str)

end Value

end Phrasebook.Json
