/-! # Double precision values

A finite non-negative double is `m * 2^q` with a 53-bit significand `m` (fewer bits only at the
least exponent, for the subnormal values). This module rounds a positive rational to the nearest
such value, ties to the even significand, as a correct reader of decimal numbers does, and gives
the fewest decimal digits that read back to a value.
-/

namespace Phrasebook.Decimal

/-- A finite non-negative double, `m * 2^q`. -/
structure Binary where
  m : Nat
  q : Int
  deriving Repr, DecidableEq

/-- The least exponent of a double's significand. -/
def leastExponent : Int := -1074

/-- The greatest exponent of a double's significand. -/
def greatestExponent : Int := 971

namespace Binary

/-- Zero. -/
def zero : Binary := ⟨0, leastExponent⟩

/-- The value as a fraction `num / den`. -/
def num (x : Binary) : Nat := x.m * Nat.pow 2 x.q.toNat

/-- The denominator of the value as a fraction. -/
def den (x : Binary) : Nat := Nat.pow 2 (-x.q).toNat

/-- The gap to the value below is half the gap to the value above: the significand is a power of
two and a smaller exponent exists. -/
def narrowBelow (x : Binary) : Bool :=
  x.m == Nat.pow 2 52 && x.q > leastExponent

end Binary

/-- `n / d` rounded to the nearest whole number, a half going to the even one. -/
def roundHalfEven (n d : Nat) : Nat :=
  let q := n / d
  let r := n % d
  if 2 * r > d then q + 1
  else if 2 * r < d then q
  else if q % 2 = 0 then q else q + 1

/-- The binary exponent `k` with `2^k ≤ n / d < 2^(k+1)`, for positive `n` and `d`. -/
def binaryScale (n d : Nat) : Int :=
  let k : Int := (Nat.log2 n : Int) - (Nat.log2 d : Int)
  if n * Nat.pow 2 (-k).toNat < d * Nat.pow 2 k.toNat then k - 1 else k

/-- The double nearest to `n / d` (ties to the even significand), or none when it rounds beyond
the greatest double. -/
def nearest (n d : Nat) : Option Binary :=
  if n = 0 ∨ d = 0 then some Binary.zero
  else
    let q := max (binaryScale n d - 52) leastExponent
    let m := roundHalfEven (n * Nat.pow 2 (-q).toNat) (d * Nat.pow 2 q.toNat)
    let x : Binary := if m = Nat.pow 2 53 then ⟨Nat.pow 2 52, q + 1⟩ else ⟨m, q⟩
    if x.q > greatestExponent then none else some x

/-- A decimal `digits * 10^exp`. -/
structure Scientific where
  digits : Nat
  exp : Int
  deriving Repr, DecidableEq

/-- Compares `a * 10^i` with `n * 2^j` exactly. -/
def compareScaled (a : Nat) (i : Int) (n : Nat) (j : Int) : Ordering :=
  compare (a * Nat.pow 10 i.toNat * Nat.pow 2 (-j).toNat)
    (n * Nat.pow 2 j.toNat * Nat.pow 10 (-i).toNat)

/-- Whether a decimal lies among the reals that round to `x`: between the midpoints to its two
neighbours, the midpoints included when the significand is even. -/
def Binary.readsBack (x : Binary) (d : Scientific) : Bool :=
  let lo := if x.narrowBelow then 4 * x.m - 1 else 4 * x.m - 2
  let hi := 4 * x.m + 2
  let incl := x.m % 2 == 0
  let cl := compareScaled d.digits d.exp lo (x.q - 2)
  let ch := compareScaled d.digits d.exp hi (x.q - 2)
  (cl == .gt || (incl && cl == .eq)) && (ch == .lt || (incl && ch == .eq))

/-- The whole number of multiples of `10^k` below `x`, rounded down. -/
def floorOnGrid (x : Binary) (k : Int) : Nat :=
  (x.m * Nat.pow 2 x.q.toNat * Nat.pow 10 (-k).toNat) /
    (Nat.pow 2 (-x.q).toNat * Nat.pow 10 k.toNat)

/-- Of the two neighbours of `x` on the grid `10^k`, those that read back, the nearer first; of
two equally near, the greater. -/
def gridHits (x : Binary) (k : Int) : Option Scientific :=
  let a := floorOnGrid x k
  let lower : Scientific := ⟨a, k⟩
  let upper : Scientific := ⟨a + 1, k⟩
  match x.readsBack lower, x.readsBack upper with
  | true, true =>
    -- compare twice the value with the sum of the two neighbours
    match compareScaled (2 * a + 1) k (2 * x.m) x.q with
    | .gt => some lower
    | _ => some upper
  | true, false => some lower
  | false, true => some upper
  | false, false => none

/-- Moves trailing zeros of the digits into the exponent. -/
def Scientific.strip (d : Scientific) (fuel : Nat) : Scientific :=
  match fuel with
  | 0 => d
  | fuel + 1 => if d.digits ≠ 0 ∧ d.digits % 10 = 0 then Scientific.strip ⟨d.digits / 10, d.exp + 1⟩ fuel else d

/-- The number of decimal digits of a positive number. -/
def digitCount (n : Nat) : Nat := (Nat.toDigits 10 n).length

/-- The fewest decimal digits that read back to a positive `x`, the nearest of them to `x`. Grids
are tried from that of the leading digit down, seventeen digits at most. -/
def Binary.shortest (x : Binary) : Scientific :=
  -- the least `k` with `x < 10^k`, from the whole part or from the fraction
  let whole := x.num / x.den
  let top : Int :=
    if whole > 0 then digitCount whole
    else -(((List.range 330).find? fun i => x.num * Nat.pow 10 (i + 1) ≥ x.den).getD 0 : Int)
  let found := (List.range 18).findSome? fun (n : Nat) => gridHits x (top - 1 - (n : Int))
  match found with
  | some d => d.strip 20
  | none => ⟨x.num * Nat.pow 5 (-x.q).toNat, x.q⟩

end Phrasebook.Decimal
