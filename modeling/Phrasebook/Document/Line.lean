import Phrasebook.Text.Integer

/-! # Line references

A catalog entry may point into the program text it came from. The line of such a pointer is
either absolute (`32`) or an offset from the previous pointer of the same file (`+3`, `-2`).
A line is read from text: a leading sign makes it an offset, which must fit in 32 signed bits;
anything else is an absolute line, which must fit in 32 unsigned bits. An offset is always
written with its sign, so `-0` reads back as `+0`.
-/

namespace Phrasebook

/-- The line of a source reference. -/
inductive Line where
  /-- An absolute line number. -/
  | absolute (n : UInt32)
  /-- An offset from the previous reference. -/
  | relative (d : Int32)
  deriving Repr, DecidableEq, BEq

namespace Line

/-- Reads a line: with a leading `+` or `-` an offset, else an absolute line. -/
def parse (s : String) : Except IntegerError Line :=
  if s.startsWith "+" || s.startsWith "-" then
    (IntegerRange.int32.read s).map fun v => .relative (Int32.ofInt v)
  else
    (IntegerRange.word32.read s).map fun v => .absolute (UInt32.ofNat v.toNat)

/-- The written form: the number, with an explicit sign for an offset. -/
def render : Line → String
  | .absolute n => toString n.toNat
  | .relative d => if d.toInt ≥ 0 then "+" ++ toString d.toInt else toString d.toInt

end Line

/-- A pointer into the program text: a file name and, when known, a line. -/
structure Location where
  file : String
  line : Option Line
  deriving Repr, DecidableEq, BEq

namespace Location

/-- `file:line`, or the file alone. -/
def render (l : Location) : String :=
  match l.line with
  | some n => l.file ++ ":" ++ n.render
  | none => l.file

end Location

end Phrasebook
