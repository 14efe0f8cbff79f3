/-! # Reading integers from text

A number is read digit by digit from the left, after an optional sign. The first character
that is not a digit of the radix, or the first digit that carries the value out of the target
range, decides the error; a digit after that point is never looked at.
-/

namespace Phrasebook

/-- Why a text is not an integer of the wanted range. -/
inductive IntegerError where
  /-- The text is empty. -/
  | empty
  /-- A character is not a digit of the radix, or a sign stands alone. -/
  | invalidDigit
  /-- The value exceeds the largest value of the range. -/
  | tooLarge
  /-- The value is below the smallest value of the range. -/
  | tooSmall
  deriving Repr, DecidableEq, BEq

namespace IntegerError

/-- The sentence that names the error. -/
def message : IntegerError → String
  | .empty => "cannot parse integer from empty string"
  | .invalidDigit => "invalid digit found in string"
  | .tooLarge => "number too large to fit in target type"
  | .tooSmall => "number too small to fit in target type"

end IntegerError

/-- A range of integers, `lo ≤ v ≤ hi`; `signed` says whether a leading `-` is a sign. -/
structure IntegerRange where
  lo : Int
  hi : Int
  signed : Bool
  deriving Repr, DecidableEq

namespace IntegerRange

/-- Unsigned 32-bit words. -/
def word32 : IntegerRange := ⟨0, 4294967295, false⟩

/-- Signed 32-bit integers. -/
def int32 : IntegerRange := ⟨-2147483648, 2147483647, true⟩

/-- Signed 64-bit integers. -/
def int64 : IntegerRange := ⟨-9223372036854775808, 9223372036854775807, true⟩

/-- Unsigned 64-bit words. -/
def word64 : IntegerRange := ⟨0, 18446744073709551615, false⟩

end IntegerRange

/-- The value of `c` as a digit of radix `radix` (at most 36), if it is one. -/
def digitValue (radix : Nat) (c : Char) : Option Nat :=
  let v :=
    if '0' ≤ c ∧ c ≤ '9' then some (c.toNat - '0'.toNat)
    else if 'a' ≤ c ∧ c ≤ 'z' then some (c.toNat - 'a'.toNat + 10)
    else if 'A' ≤ c ∧ c ≤ 'Z' then some (c.toNat - 'A'.toNat + 10)
    else none
  v.filter (· < radix)

/-- Adds digits to `acc` from the left while the value stays at most `hi`. -/
def accumulateUp (radix : Nat) (hi : Int) : Int → List Char → Except IntegerError Int
  | acc, [] => .ok acc
  | acc, c :: cs =>
    match digitValue radix c with
    | none => .error .invalidDigit
    | some d =>
      let next := acc * radix + d
      if next > hi then .error .tooLarge else accumulateUp radix hi next cs

/-- Subtracts digits from `acc` from the left while the value stays at least `lo`. -/
def accumulateDown (radix : Nat) (lo : Int) : Int → List Char → Except IntegerError Int
  | acc, [] => .ok acc
  | acc, c :: cs =>
    match digitValue radix c with
    | none => .error .invalidDigit
    | some d =>
      let next := acc * radix - d
      if next < lo then .error .tooSmall else accumulateDown radix lo next cs

namespace IntegerRange

/-- Reads `s` as an integer of the range in radix `radix`. A `+` may lead; a `-` leads only in a
signed range, and elsewhere it is a character that is no digit. -/
def readRadix (r : IntegerRange) (radix : Nat) (s : String) : Except IntegerError Int :=
  match s.toList with
  | [] => .error .empty
  | ['+'] => .error .invalidDigit
  | ['-'] => .error .invalidDigit
  | '+' :: ds => accumulateUp radix r.hi 0 ds
  | '-' :: ds =>
    if r.signed then accumulateDown radix r.lo 0 ds else accumulateUp radix r.hi 0 ('-' :: ds)
  | ds => accumulateUp radix r.hi 0 ds

/-- Reads `s` as a decimal integer of the range. -/
def read (r : IntegerRange) (s : String) : Except IntegerError Int :=
  r.readRadix 10 s

end IntegerRange

end Phrasebook
