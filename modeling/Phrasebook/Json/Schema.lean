import Phrasebook.Json.Number
import Phrasebook.Text.Quoted

/-! # Shapes of JSON data

A shape says what JSON data a setting expects: a text, a boolean, a count, an optional value,
a list, a record of named fields (all optional, unknown fields ignored, or its fields in order as
a list), or one of a few names. Reading data against a shape checks it and keeps it as a
`Datum`; the faults name what was found and what was expected:
`invalid type: integer `5`, expected a string`.

This module reads a datum that is already a tree. Its objects are met with their keys in
sorted order; a list given for a record must not be longer than the record.
-/

namespace Phrasebook.Json

/-- JSON data as a reader holds it. -/
inductive Datum where
  | null
  | bool (b : Bool)
  | number (n : Number)
  | str (s : String)
  | arr (items : List Datum)
  | obj (fields : List (String × Datum))
  deriving Repr, Inhabited

/-- What data a setting expects. -/
inductive Shape where
  /-- A text. -/
  | text
  /-- A boolean. -/
  | flag
  /-- A count, a whole number from `0` to `2^64 - 1`. -/
  | count
  /-- A value of a shape, or `null`. -/
  | optional (inner : Shape)
  /-- A list of values of a shape. -/
  | list (item : Shape)
  /-- A record with a name and fields, each of them optional. -/
  | record (name : String) (fields : List (String × Shape))
  /-- One of a few names. -/
  | choice (names : List String)
  deriving Repr, Inhabited

/-- How a message names the data it did not expect. -/
inductive Found where
  | null
  | bool (b : Bool)
  | number (n : Number)
  | str (s : String)
  | list
  | map
  | unit

namespace Found

/-- The words for what was found. -/
def describe : Found → String
  | .null => "null"
  | .bool b => "boolean `" ++ toString b ++ "`"
  | .number n => n.describe
  | .str s => "string " ++ Text.quote s
  | .list => "sequence"
  | .map => "map"
  | .unit => "unit value"

end Found

/-- The words for what a shape expects. -/
def Shape.expected : Shape → String
  | .text => "a string"
  | .flag => "a boolean"
  | .count => "usize"
  | .optional _ => "option"
  | .list _ => "a sequence"
  | .record name _ => "struct " ++ name
  | .choice _ => "variant identifier"

/-- A list of names as a message gives it: `a`, `a` or `b`, or one of `a`, `b`, `c`. -/
def oneOf (names : List String) : String :=
  let tick := fun (n : String) => "`" ++ n ++ "`"
  match names with
  | [] => "there are no variants"
  | [a] => tick a
  | [a, b] => tick a ++ " or " ++ tick b
  | _ => "one of " ++ ", ".intercalate (names.map tick)

/-- Why data does not fit a shape. -/
inductive DataFault where
  /-- The data is of another kind. -/
  | invalidType (found : Found) (expected : String)
  /-- The data is of the right kind with a value out of reach. -/
  | invalidValue (found : Found) (expected : String)
  /-- A list or map has the wrong number of items. -/
  | invalidLength (length : Nat) (expected : String)
  /-- A name that is not among the choices. -/
  | unknownVariant (name : String) (names : List String)
  /-- A field given twice. -/
  | duplicateField (name : String)

namespace DataFault

/-- The sentence for the fault. -/
def message : DataFault → String
  | .invalidType f e => "invalid type: " ++ f.describe ++ ", expected " ++ e
  | .invalidValue f e => "invalid value: " ++ f.describe ++ ", expected " ++ e
  | .invalidLength n e => "invalid length " ++ toString n ++ ", expected " ++ e
  | .unknownVariant n ns =>
    if ns.isEmpty then "unknown variant `" ++ n ++ "`, there are no variants"
    else "unknown variant `" ++ n ++ "`, expected " ++ oneOf ns
  | .duplicateField n => "duplicate field `" ++ n ++ "`"

end DataFault

namespace Datum

/-- What a message calls this datum. -/
def found : Datum → Found
  | .null => .null
  | .bool b => .bool b
  | .number n => .number n
  | .str s => .str s
  | .arr _ => .list
  | .obj _ => .map

/-- The datum under a key, if any. -/
def field? (d : Datum) (key : String) : Option Datum :=
  match d with
  | .obj fs => (fs.find? (·.1 == key)).map (·.2)
  | _ => none

end Datum

/-- A count read from a number. -/
def countOf (expected : String) : Number → Except DataFault Datum
  | .unsigned n => .ok (.number (.unsigned n))
  | .negative n => .error (.invalidValue (.number (.negative n)) expected)
  | n => .error (.invalidType (.number n) expected)

/-- The choice that a name makes. -/
def choiceOf (names : List String) (name : String) : Except DataFault Datum :=
  if names.contains name then .ok (.str name) else .error (.unknownVariant name names)

/-- Reads a datum against a shape. An object's unknown keys are skipped; a list given for a
record fills its fields in order, and fields past its end stay absent. -/
def Shape.read (s : Shape) (d : Datum) : Except DataFault Datum :=
  match s, d with
  | .text, .str t => .ok (.str t)
  | .text, d => .error (.invalidType d.found "a string")
  | .flag, .bool b => .ok (.bool b)
  | .flag, d => .error (.invalidType d.found "a boolean")
  | .count, .number n => countOf "usize" n
  | .count, d => .error (.invalidType d.found "usize")
  | .optional _, .null => .ok .null
  | .optional inner, d => inner.read d
  | .list item, .arr items => (items.mapM fun x => item.read x).map .arr
  | .list _, d => .error (.invalidType d.found "a sequence")
  | .record _ fs, .obj entries =>
    (entries.filterMapM fun (entry : String × Datum) =>
      let (k, v) := entry
      match fs.attach.find? (fun (p : {x // x ∈ fs}) => p.1.1 == k) with
      | some ⟨(_, fieldShape), _⟩ => (fieldShape.read v).map fun r => some (k, r)
      | none => .ok none).map .obj
  | .record _ fs, .arr items =>
    if items.length > fs.length then .error (.invalidLength items.length "fewer elements in array")
    else ((fs.attach.zip items).mapM fun (pair : {x // x ∈ fs} × Datum) =>
      match pair with
      | (⟨(k, fieldShape), _⟩, x) => (fieldShape.read x).map fun r => (k, r)).map .obj
  | .record name _, d => .error (.invalidType d.found ("struct " ++ name))
  | .choice ns, .str t => choiceOf ns t
  | .choice ns, .obj [(k, v)] => do
    let r ← choiceOf ns k
    match v with
    | .null => pure r
    | d => .error (.invalidType d.found "unit")
  | .choice _, .obj _ => .error (.invalidValue .map "map with a single key")
  | .choice _, d => .error (.invalidType d.found "string or map")
termination_by sizeOf s
decreasing_by
  all_goals simp_wf
  all_goals first
    | omega
    | (rename_i h; have := List.sizeOf_lt_of_mem h; simp at this; omega)

end Phrasebook.Json
