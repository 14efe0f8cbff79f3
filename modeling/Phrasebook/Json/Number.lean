import Phrasebook.Decimal.Binary

/-! # Numbers of JSON text

A JSON reader sorts each number it reads into one of three kinds: a whole number without sign
that fits in 64 bits, a negative whole number that fits in 64 bits with sign, or else a double.

The double is assembled from the digits as a fast reader does, not by correct rounding: the
significand keeps the digits that fit in 64 bits (later integer digits only raise the exponent,
later fraction digits are dropped), it is rounded to a double, and then multiplied or divided by
the double nearest to the power of ten, in steps of `10^308` below that. A product beyond the
greatest double is out of range; a quotient below the least one is zero.

A double is written with the fewest digits that read back: positionally while its decimal point
lies at most sixteen places to the right of the first digit and fewer than five places to its
left, else as `d.ddde±x`; a whole number keeps `.0`.
-/

namespace Phrasebook.Json

open Decimal

/-- A number as a JSON reader classifies it. -/
inductive Number where
  /-- A whole number from `0` to `2^64 - 1`. -/
  | unsigned (n : Nat)
  /-- A negative whole number from `-2^63`. -/
  | negative (n : Int)
  /-- Any other number, as the double it reads as. -/
  | double (minus : Bool) (x : Binary)
  deriving Repr, DecidableEq

/-- The double nearest to `10^k`. -/
def powerOfTen (k : Nat) : Binary :=
  (nearest (Nat.pow 10 k) 1).getD Binary.zero

/-- The double of `significand * 10^exponent`, assembled in double steps; none when it is out of
range. The fuel bounds the steps of `10^308`, of which at most two are taken before the value
is zero. -/
def assembleSteps (x : Binary) (exponent : Int) : Nat → Option Binary
  | 0 => some x
  | fuel + 1 =>
    if exponent.natAbs ≤ 308 then
      let p := powerOfTen exponent.natAbs
      if exponent ≥ 0 then nearest (x.num * p.num) (x.den * p.den)
      else nearest (x.num * p.den) (x.den * p.num)
    else if x.m = 0 then some x
    else if exponent ≥ 0 then none
    else
      let p := powerOfTen 308
      match nearest (x.num * p.den) (x.den * p.num) with
      | some y => assembleSteps y (exponent + 308) fuel
      | none => none

/-- The double of `significand * 10^exponent` for a significand below `2^64`. -/
def assemble (significand : Nat) (exponent : Int) : Option Binary :=
  (nearest significand 1).bind fun x => assembleSteps x exponent 8

/-- How a double is laid out as text. -/
structure Layout where
  /-- The furthest place right of the first digit where the point stays positional. -/
  widest : Int
  /-- The nearest place left of the first digit where the point no longer stays positional. -/
  smallest : Int
  /-- A positive exponent is written with a plus sign. -/
  plusSign : Bool

/-- The layout of doubles in messages. -/
def Layout.messages : Layout := ⟨16, -5, true⟩

/-- The digits of a number as text. -/
def digitText (n : Nat) : String := String.ofList (Nat.toDigits 10 n)

/-- A text of `n` zeros. -/
def zeros (n : Nat) : String := String.ofList (List.replicate n '0')

/-- Lays out digits `d` (no trailing zeros) times `10^e`. -/
def Layout.render (l : Layout) (d : Scientific) : String :=
  let ds := digitText d.digits
  let n : Int := ds.length
  -- the place of the point counted from the first digit
  let point := n + d.exp
  if 0 ≤ d.exp ∧ point ≤ l.widest then ds ++ zeros d.exp.toNat ++ ".0"
  else if 0 < point ∧ point ≤ l.widest then
    String.ofList (ds.toList.take point.toNat) ++ "." ++ String.ofList (ds.toList.drop point.toNat)
  else if l.smallest < point ∧ point ≤ 0 then "0." ++ zeros (-point).toNat ++ ds
  else
    let e := point - 1
    let sign := if e < 0 then "-" else if l.plusSign then "+" else ""
    let mantissa := if n = 1 then ds else String.ofList (ds.toList.take 1) ++ "." ++ String.ofList (ds.toList.drop 1)
    mantissa ++ "e" ++ sign ++ digitText e.natAbs

/-- The greatest whole number of 64 bits without sign. -/
def maxWord : Nat := Nat.pow 2 64 - 1

/-- Whether `sig * 10 + d` still fits in 64 bits. -/
def fitsWord (sig d : Nat) : Bool :=
  !(sig ≥ maxWord / 10 && (sig > maxWord / 10 || d > maxWord % 10))

/-- What a reader keeps of a numeral's digits: a significand that fits in 64 bits, the power of
ten it is scaled by, and whether a whole digit did not fit. -/
structure Significand where
  value : Nat := 0
  exponent : Int := 0
  overflowed : Bool := false
  deriving Repr, DecidableEq

namespace Significand

/-- Adds the digits of the whole part: once one does not fit, each later one only raises the
exponent. -/
def addWhole (s : Significand) : List Nat → Significand
  | [] => s
  | d :: ds =>
    if !s.overflowed && fitsWord s.value d then addWhole { s with value := s.value * 10 + d } ds
    else addWhole { s with overflowed := true, exponent := s.exponent + 1 } ds

/-- Adds the digits of the fraction: once one does not fit, it and all later ones are dropped. -/
def addFraction (s : Significand) : List Nat → Significand
  | [] => s
  | d :: ds =>
    if fitsWord s.value d then addFraction { s with value := s.value * 10 + d, exponent := s.exponent - 1 } ds
    else s

end Significand

/-- The least and greatest exponents a reader counts with, those of 32-bit integers. -/
def clampExponent (e : Int) : Int :=
  max (-2147483648) (min 2147483647 e)

/-- The number a reader makes of a numeral's parts: its sign, whole digits, fraction digits (if
it has a point) and written exponent (if it has one, already known to fit in 32 bits); none when
its double is out of range. A numeral without point and exponent is a whole number when it fits:
without sign up to `2^64 - 1`, negative down to `-2^63`; `-0` is the double `-0.0`. -/
def Number.ofParts (minus : Bool) (whole : List Nat) (fraction : Option (List Nat))
    (written : Option Int) : Option Number :=
  let s := Significand.addWhole {} whole
  match fraction, written with
  | none, none =>
    if s.overflowed then
      (assemble s.value s.exponent).map (.double minus)
    else if !minus then some (.unsigned s.value)
    else if s.value = 0 then some (.double true Binary.zero)
    else if s.value ≤ Nat.pow 2 63 then some (.negative (-(s.value : Int)))
    else (nearest s.value 1).map (.double true)
  | _, _ =>
    let s := s.addFraction (fraction.getD [])
    (assemble s.value (clampExponent (s.exponent + written.getD 0))).map (.double minus)

/-- The number a reader makes of `m / 10^scale`, written with that many places after the point. -/
def Number.ofScaled (m : Int) (scale : Nat) : Option Number :=
  let ds := (Nat.toDigits 10 m.natAbs).map fun c => c.toNat - '0'.toNat
  if scale = 0 then Number.ofParts (m < 0) ds none none
  else
    let padded := List.replicate (scale + 1 - min (scale + 1) ds.length) 0 ++ ds
    Number.ofParts (m < 0) (padded.take (padded.length - scale)) (some (padded.drop (padded.length - scale))) none

namespace Number

/-- A double written with the fewest digits that read back. -/
def doubleText (minus : Bool) (x : Binary) : String :=
  (if minus then "-" else "") ++ (if x.m = 0 then "0.0" else Layout.messages.render x.shortest)

/-- How a message names the number it did not expect. -/
def describe : Number → String
  | .unsigned n => "integer `" ++ toString n ++ "`"
  | .negative n => "integer `" ++ toString n ++ "`"
  | .double minus x => "floating point `" ++ doubleText minus x ++ "`"

end Number

end Phrasebook.Json
