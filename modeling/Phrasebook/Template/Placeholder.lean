/-! # Placeholders in texts

A text may hold placeholders: `%1` to `%99` for arguments and `%n` for a count, each optionally
written with an `L` after the `%` (`%L1`, `%Ln`). An argument placeholder takes one digit from
`1` to `9` and at most one more digit, so `%100` is `%10` followed by `0`. Any other `%` is an
ordinary character.

Tokenizing walks the bytes of the text's UTF-8 encoding. It cuts the text at byte positions and
takes the text between two positions as a slice, which is empty when a position falls inside a
character.

Substitution numbers the distinct argument placeholders of a text from the smallest up: the
smallest gets the first argument, the next the second, and so on. A placeholder without a value
stays as written. Values are inserted as they are and never scanned again.
-/

namespace Phrasebook.Template

/-- A piece of a text. -/
inductive Token where
  /-- Ordinary characters. -/
  | literal (text : String)
  /-- `%n` or `%Ln`, as written. -/
  | count (raw : String)
  /-- `%k` or `%Lk` with `k` from 1 to 99, as written. -/
  | arg (number : Nat) (raw : String)
  deriving Repr, DecidableEq

/-- A text's bytes in UTF-8. -/
def bytesOf (text : String) : List UInt8 :=
  text.toUTF8.data.toList

/-- Whether a byte position of an encoding lies between two characters: the start, the end, or a
byte that is not a continuation byte (`0x80` to `0xBF`), which is what the signed test
`(b as i8) >= -0x40` says. -/
def isCharBoundary (bytes : List UInt8) (i : Nat) : Bool :=
  if i = 0 then true
  else
    match bytes[i]? with
    | some b => b < 0x80 || 0xC0 ≤ b
    | none => i == bytes.length

/-- The text between two byte positions of an encoding, or nothing when they are out of order or
one of them lies inside a character. -/
def slice (bytes : List UInt8) (a b : Nat) : Option String :=
  if a ≤ b ∧ isCharBoundary bytes a = true ∧ isCharBoundary bytes b = true then
    String.fromUTF8? ((bytes.drop a).take (b - a)).toByteArray
  else none

/-- The value of a decimal digit byte. -/
def digit (b : UInt8) : Nat := b.toNat - '0'.toNat

/-- The rest of a placeholder after the optional `L`, which `lead` counts: `n`, or a digit from 1
to 9 and at most one more digit. -/
def placeholderBody (lead : Nat) : List UInt8 → Option (Option Nat × Nat)
  | [] => none
  | d :: more =>
    if d = 'n'.toUInt8 then some (none, lead + 1)
    else if '1'.toUInt8 ≤ d ∧ d ≤ '9'.toUInt8 then
      match more with
      | e :: _ =>
        if '0'.toUInt8 ≤ e ∧ e ≤ '9'.toUInt8 then some (some (digit d * 10 + digit e), lead + 2)
        else some (some (digit d), lead + 1)
      | [] => some (some (digit d), lead + 1)
    else none

/-- The placeholder in the bytes right after a `%`: what it stands for and how many bytes it
takes. -/
def placeholderAt : List UInt8 → Option (Option Nat × Nat)
  | b :: rest => if b = 'L'.toUInt8 then placeholderBody 1 rest else placeholderBody 0 (b :: rest)
  | [] => placeholderBody 0 []

/-- A piece of a text that tokenizing cuts out, by the byte positions where it starts and stops. -/
inductive Cut where
  /-- Ordinary characters. -/
  | literal (start stop : Nat)
  /-- A count placeholder. -/
  | count (start stop : Nat)
  /-- An argument placeholder and its number. -/
  | arg (number start stop : Nat)
  deriving Repr, DecidableEq

/-- The loop over a text's bytes: `index` is the byte looked at and `start` the first byte of the
ordinary characters not yet cut. A `%` that starts a placeholder cuts the ordinary characters
before it, if any, and the placeholder; any other byte moves on by one. -/
def cutsFrom (bytes : List UInt8) (start index : Nat) : List Cut :=
  if index < bytes.length then
    if bytes[index]? ≠ some '%'.toUInt8 then cutsFrom bytes start (index + 1)
    else
      match placeholderAt (bytes.drop (index + 1)) with
      | none => cutsFrom bytes start (index + 1)
      | some (slot, taken) =>
        let next := index + taken + 1
        let cut := match slot with
          | some k => Cut.arg k index next
          | none => Cut.count index next
        (if start < index then [Cut.literal start index] else []) ++ cut :: cutsFrom bytes next next
  else if start < bytes.length then [Cut.literal start bytes.length] else []
termination_by bytes.length - index

/-- The token of a cut: the text between its byte positions, or the empty text when that slice
is not on character boundaries. -/
def Cut.token (bytes : List UInt8) : Cut → Token
  | .literal a b => .literal ((slice bytes a b).getD "")
  | .count a b => .count ((slice bytes a b).getD "")
  | .arg k a b => .arg k ((slice bytes a b).getD "")

/-- The tokens of a text. -/
def tokenize (text : String) : List Token :=
  (cutsFrom (bytesOf text) 0 0).map (Cut.token (bytesOf text))

/-- Inserts a number into an ascending list of distinct numbers. -/
def insertNumber (k : Nat) : List Nat → List Nat
  | [] => [k]
  | m :: ms => if k < m then k :: m :: ms else if k = m then m :: ms else m :: insertNumber k ms

/-- The distinct argument numbers of the tokens, ascending. -/
def numbersOf (tokens : List Token) : List Nat :=
  tokens.foldl (fun acc t => match t with
    | .arg k _ => insertNumber k acc
    | _ => acc) []

/-- The distinct argument numbers of a text, ascending. -/
def numbers (text : String) : List Nat :=
  numbersOf (tokenize text)

/-- Whether a text holds a count placeholder. -/
def hasCount (text : String) : Bool :=
  (tokenize text).any fun
    | .count _ => true
    | _ => false

/-- Fills a text's placeholders with a count and arguments. -/
def substitute (text : String) (count : Option Int) (args : List String) : String :=
  let tokens := tokenize text
  if tokens.all (fun | .literal _ => true | _ => false) then text
  else
    let order := numbersOf tokens
    String.join (tokens.map fun
      | .literal t => t
      | .count raw => (count.map toString).getD raw
      | .arg k raw => ((order.idxOf? k).bind fun i => args[i]?).getD raw)

end Phrasebook.Template
