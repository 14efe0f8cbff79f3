import Phrasebook.Text.Integer

/-! # References in markup text

Text and attribute values may hold references: one of the five predefined entities
(`&lt;`, `&gt;`, `&amp;`, `&apos;`, `&quot;`) or a numeric character reference (`&#65;`,
`&#x41;`). `unescape` replaces them and reports the first reference that is not one of these;
`escape` writes the five special characters back as entities.

Positions in errors are byte offsets into the text being unescaped.
-/

namespace Phrasebook.Markup

/-- Why a numeric character reference names no character. -/
inductive CharRefError where
  /-- The number starts with `+` or `-`. -/
  | sign
  /-- The digits do not form a 32-bit number. -/
  | number (e : IntegerError)
  /-- The number is no Unicode scalar value. -/
  | notScalar (n : Nat)
  /-- The number is zero, which no document may hold. -/
  | forbidden (n : Nat)
  deriving Repr, DecidableEq

/-- Why a text with references cannot be unescaped. -/
inductive EscapeError where
  /-- `&name;` where `name` is no known entity; the range covers `name`. -/
  | unknownEntity (first last : Nat) (name : String)
  /-- An `&` with no `;` before the next `&` or the end; the range runs from `&` to the end. -/
  | unterminated (first last : Nat)
  /-- A numeric reference that names no character. -/
  | charRef (e : CharRefError)
  deriving Repr, DecidableEq

/-- Lowercase hexadecimal digits of `n`. -/
def hexDigits (n : Nat) : String :=
  String.ofList (Nat.toDigits 16 n)

namespace CharRefError

/-- The sentence that names the error. -/
def message : CharRefError → String
  | .sign => "unexpected number sign"
  | .number e => e.message
  | .notScalar n => s!"`{n}` is not a valid codepoint"
  | .forbidden n => "0x" ++ hexDigits n ++ " character is not permitted in XML"

end CharRefError

namespace EscapeError

/-- The sentence that names the error. -/
def message : EscapeError → String
  | .unknownEntity a b name => s!"at {a}..{b}: unrecognized entity `{name}`"
  | .unterminated a b => s!"Error while escaping character at range {a}..{b}: Cannot find ';' after '&'"
  | .charRef e => "invalid character reference: " ++ e.message

end EscapeError

/-- The apostrophe character. -/
def apostrophe : Char := Char.ofNat 39

/-- The value of a predefined entity. -/
def predefinedEntity : String → Option Char
  | "lt" => some '<'
  | "gt" => some '>'
  | "amp" => some '&'
  | "apos" => some apostrophe
  | "quot" => some '"'
  | _ => none

/-- The character that a numeric reference's body (the text after `#`) names. A leading `x`
selects hexadecimal digits. -/
def charOfReference (body : List Char) : Except CharRefError Char :=
  let (radix, digits) := match body with
    | 'x' :: ds => (16, ds)
    | ds => (10, ds)
  match digits with
  | '+' :: _ => .error .sign
  | '-' :: _ => .error .sign
  | _ =>
    match IntegerRange.word32.readRadix radix (String.ofList digits) with
    | .error e => .error (.number e)
    | .ok v =>
      let n := v.toNat
      if n = 0 then .error (.forbidden n)
      else if n.isValidChar then .ok (Char.ofNat n)
      else .error (.notScalar n)

/-- What a reference body (the text between `&` and `;`) stands for. The range names the body's
bytes, for the error. -/
def resolveReference (first last : Nat) (body : List Char) : Except EscapeError String :=
  match body with
  | '#' :: num =>
    match charOfReference num with
    | .ok c => .ok (String.singleton c)
    | .error e => .error (.charRef e)
  | _ =>
    let name := String.ofList body
    match predefinedEntity name with
    | some c => .ok (String.singleton c)
    | none => .error (.unknownEntity first last name)

/-- Unescapes from the current point. `pos` is the byte offset of the rest, `total` the byte length
of the whole text; `open` holds the offset of a pending `&` and the body read since, reversed. -/
def unescapeFrom (total : Nat) : List Char → Nat → Option (Nat × List Char) → String →
    Except EscapeError String
  | [], _, none, out => .ok out
  | [], _, some (start, _), _ => .error (.unterminated start total)
  | c :: cs, pos, none, out =>
    if c = '&' then unescapeFrom total cs (pos + c.utf8Size) (some (pos, [])) out
    else unescapeFrom total cs (pos + c.utf8Size) none (out.push c)
  | c :: cs, pos, some (start, body), out =>
    if c = ';' then
      match resolveReference (start + 1) pos body.reverse with
      | .ok s => unescapeFrom total cs (pos + 1) none (out ++ s)
      | .error e => .error e
    else if c = '&' then .error (.unterminated start total)
    else unescapeFrom total cs (pos + c.utf8Size) (some (start, c :: body)) out

/-- Replaces every reference in `raw` by the character it names. -/
def unescape (raw : List Char) : Except EscapeError String :=
  unescapeFrom (String.ofList raw).utf8ByteSize raw 0 none ""

/-- The written form of one character: the five special characters become entities. -/
def escapeChar (c : Char) : String :=
  if c = '<' then "&lt;"
  else if c = '>' then "&gt;"
  else if c = '&' then "&amp;"
  else if c = apostrophe then "&apos;"
  else if c = '"' then "&quot;"
  else String.singleton c

/-- Writes `s` so that no character of it reads as markup. -/
def escape (s : String) : String :=
  s.toList.foldl (fun acc c => acc ++ escapeChar c) ""

end Phrasebook.Markup
