import Phrasebook.Json.Schema

/-! # Reading JSON text against a shape

JSON text is read against a shape in one pass, the way a streaming reader does: the data is
checked while it is read, so the first fault met, of syntax or of data, is the one reported,
with the line and column where the reader stood. Columns count bytes from the start of the line.

Where the reader stands after a fault depends on the fault. A fault found by looking at the next
character is placed after that character's first byte; a fault found when reading a character is
placed after it; a fault of data is placed after the datum (or at a list or object that was not
expected), and a field given twice is placed after the blanks that follow its key.

Fields that the shape does not know are skipped, but their text must still be well-formed:
numbers are checked for their form only, and strings for their escapes.
-/

namespace Phrasebook.Json

/-- The faults of JSON syntax. -/
inductive SyntaxFault where
  | eofWhileParsingList
  | eofWhileParsingObject
  | eofWhileParsingString
  | eofWhileParsingValue
  | expectedColon
  | expectedListCommaOrEnd
  | expectedObjectCommaOrEnd
  | expectedSomeIdent
  | expectedSomeValue
  | invalidEscape
  | invalidNumber
  | numberOutOfRange
  | controlCharacterInString
  | keyMustBeAString
  | loneLeadingSurrogate
  | trailingComma
  | trailingCharacters
  | unexpectedEndOfHexEscape
  deriving Repr, DecidableEq

namespace SyntaxFault

/-- The sentence for the fault. -/
def message : SyntaxFault → String
  | .eofWhileParsingList => "EOF while parsing a list"
  | .eofWhileParsingObject => "EOF while parsing an object"
  | .eofWhileParsingString => "EOF while parsing a string"
  | .eofWhileParsingValue => "EOF while parsing a value"
  | .expectedColon => "expected `:`"
  | .expectedListCommaOrEnd => "expected `,` or `]`"
  | .expectedObjectCommaOrEnd => "expected `,` or `\x7d`"
  | .expectedSomeIdent => "expected ident"
  | .expectedSomeValue => "expected value"
  | .invalidEscape => "invalid escape"
  | .invalidNumber => "invalid number"
  | .numberOutOfRange => "number out of range"
  | .controlCharacterInString => "control character (\\u0000-\\u001F) found while parsing a string"
  | .keyMustBeAString => "key must be a string"
  | .loneLeadingSurrogate => "lone leading surrogate in hex escape"
  | .trailingComma => "trailing comma"
  | .trailingCharacters => "trailing characters"
  | .unexpectedEndOfHexEscape => "unexpected end of hex escape"

end SyntaxFault

/-- A fault met while reading JSON text, at a byte offset. -/
inductive ReadFault where
  | malformed (fault : SyntaxFault) (offset : Nat)
  | data (fault : DataFault) (offset : Nat)

/-- The line (from 1) and column (bytes from the start of the line) of a byte offset. -/
def lineColumn (input : String) (offset : Nat) : Nat × Nat :=
  let before := (input.toUTF8.toList.take offset)
  let lines := (before.filter (· == 10)).length
  let column := (before.reverse.takeWhile (· != 10)).length
  (lines + 1, column)

namespace ReadFault

/-- The sentence for the fault, without its place. -/
def text : ReadFault → String
  | .malformed f _ => f.message
  | .data f _ => f.message

/-- The byte offset of the fault. -/
def offset : ReadFault → Nat
  | .malformed _ o => o
  | .data _ o => o

/-- The sentence for the fault with its line and column. -/
def message (input : String) (f : ReadFault) : String :=
  let (line, column) := lineColumn input f.offset
  f.text ++ " at line " ++ toString line ++ " column " ++ toString column

end ReadFault

/-- Where a reader stands in a text. -/
structure Cursor where
  rest : List Char
  /-- Bytes read so far. -/
  offset : Nat
  /-- Bytes of the whole text. -/
  total : Nat

/-- A step of reading. -/
abbrev Reading := StateT Cursor (Except ReadFault)

namespace Reading

/-- The blanks between tokens. -/
def isBlank (c : Char) : Bool :=
  c = ' ' || c = '\n' || c = '\t' || c = '\r'

/-- Skips blanks. -/
def skipBlank : Reading Unit :=
  modify fun c =>
    let n := (c.rest.takeWhile isBlank).length
    { c with rest := c.rest.drop n, offset := c.offset + n }

/-- The next character, if any. -/
def peek : Reading (Option Char) := do
  return (← get).rest.head?

/-- The next character after blanks, if any. -/
def peekToken : Reading (Option Char) := do
  skipBlank
  peek

/-- Moves past the next character. -/
def bump : Reading Unit :=
  modify fun c =>
    match c.rest with
    | [] => c
    | x :: xs => { c with rest := xs, offset := c.offset + x.utf8Size }

/-- A syntax fault where the reader stands. -/
def failHere {α} (f : SyntaxFault) : Reading α := do
  throw (.malformed f (← get).offset)

/-- A syntax fault after the first byte of the next character. -/
def failPeek {α} (f : SyntaxFault) : Reading α := do
  let c ← get
  throw (.malformed f (min c.total (c.offset + 1)))

/-- A data fault where the reader stands. -/
def failData {α} (f : DataFault) : Reading α := do
  throw (.data f (← get).offset)

/-- Reads the rest of a word such as `null`, whose first letter has been read. -/
def word : List Char → Reading Unit
  | [] => pure ()
  | e :: es => do
    match ← peek with
    | none => failHere .eofWhileParsingValue
    | some x =>
      if x = e then
        bump
        word es
      else
        let c ← get
        throw (.malformed .expectedSomeIdent (c.offset + 1))

/-- The decimal digits at the front. -/
def digits : Reading (List Nat) := do
  let c ← get
  let ds := c.rest.takeWhile Char.isDigit
  set { c with rest := c.rest.drop ds.length, offset := c.offset + ds.length }
  return ds.map fun d => d.toNat - '0'.toNat

/-- The value of four hexadecimal digits. -/
def hexValue (cs : List Char) : Option Nat :=
  cs.foldlM (fun acc c =>
    if c.isDigit then some (acc * 16 + (c.toNat - '0'.toNat))
    else if 'a' ≤ c ∧ c ≤ 'f' then some (acc * 16 + (c.toNat - 'a'.toNat + 10))
    else if 'A' ≤ c ∧ c ≤ 'F' then some (acc * 16 + (c.toNat - 'A'.toNat + 10))
    else none) 0

/-- Reads the four hexadecimal digits of a `\u` escape. -/
def hexEscape : Reading Nat := do
  let c ← get
  let four := c.rest.take 4
  if c.total < c.offset + 4 then throw (.malformed .eofWhileParsingString c.total)
  else
    match (if four.all fun x => x.toNat < 128 then hexValue four else none) with
    | some n =>
      set { c with rest := c.rest.drop 4, offset := c.offset + 4 }
      return n
    | none => throw (.malformed .invalidEscape (c.offset + 4))

/-- Reads the character of a `\u` escape, a pair of surrogates joined. -/
def unicodeEscape : Reading Char := do
  let n ← hexEscape
  if 0xDC00 ≤ n ∧ n ≤ 0xDFFF then failHere .loneLeadingSurrogate
  else if n < 0xD800 ∨ n > 0xDBFF then return Char.ofNat n
  else
    for expected in ['\\', 'u'] do
      match ← peek with
      | none => failHere .eofWhileParsingString
      | some x =>
        if x = expected then bump
        else
          let c ← get
          throw (.malformed .unexpectedEndOfHexEscape (c.offset + 1))
    let low ← hexEscape
    if low < 0xDC00 ∨ low > 0xDFFF then failHere .loneLeadingSurrogate
    else return Char.ofNat (((n - 0xD800) * 1024 + (low - 0xDC00)) + 0x10000)

/-- Reads an escape after its backslash. -/
def escape : Reading Char := do
  match ← peek with
  | none => failHere .eofWhileParsingString
  | some x =>
    bump
    match x with
    | '"' => return '"'
    | '\\' => return '\\'
    | '/' => return '/'
    | 'b' => return Char.ofNat 8
    | 'f' => return Char.ofNat 12
    | 'n' => return '\n'
    | 'r' => return '\r'
    | 't' => return '\t'
    | 'u' => unicodeEscape
    | _ =>
      let c ← get
      throw (.malformed .invalidEscape (c.offset - x.utf8Size + 1))

/-- Reads the rest of a string after its opening quote; `acc` holds its characters so far,
reversed. -/
def stringBody : Nat → List Char → Reading String
  | 0, _ => failHere .eofWhileParsingString
  | fuel + 1, acc => do
    match ← peek with
    | none => failHere .eofWhileParsingString
    | some '"' =>
      bump
      return String.ofList acc.reverse
    | some '\\' =>
      bump
      let e ← escape
      stringBody fuel (e :: acc)
    | some x =>
      if x.toNat < 32 then
        let c ← get
        throw (.malformed .controlCharacterInString (c.offset + 1))
      else
        bump
        stringBody fuel (x :: acc)

/-- Skips an escape after its backslash. -/
def skipEscape : Reading Unit := do
  match ← peek with
  | none => failHere .eofWhileParsingString
  | some x =>
    bump
    if x = 'u' then
      let _ ← hexEscape
    else if ['"', '\\', '/', 'b', 'f', 'n', 'r', 't'].contains x then pure ()
    else
      let c ← get
      throw (.malformed .invalidEscape (c.offset - x.utf8Size + 1))

/-- Skips the rest of a string after its opening quote. -/
def skipString : Nat → Reading Unit
  | 0 => failHere .eofWhileParsingString
  | fuel + 1 => do
    match ← peek with
    | none => failHere .eofWhileParsingString
    | some '"' => bump
    | some '\\' =>
      bump
      skipEscape
      skipString fuel
    | some x =>
      if x.toNat < 32 then failHere .controlCharacterInString
      else
        bump
        skipString fuel

/-- Fails after the first byte of the next character, which was read. -/
def failAfterByte {α} (f : SyntaxFault) : Reading α := do
  let c ← get
  match c.rest with
  | [] => throw (.malformed f c.offset)
  | _ => throw (.malformed f (c.offset + 1))

/-- The written exponent after `e` and its sign: its value when it fits in 32 bits, or none when
it does not (the digits are then all read, except that a positive exponent of a non-zero
significand stops the reading as out of range). -/
def exponentDigits (positive nonZero : Bool) : Reading (Option Int) := do
  match ← peek with
  | none => failHere .eofWhileParsingValue
  | some x =>
    if !x.isDigit then failAfterByte .invalidNumber
    else
      bump
      let rest ← digits
      let ds := (x.toNat - '0'.toNat) :: rest
      -- the first digit at which the value passes the 32-bit limit
      let overflow := (ds.zip (List.range ds.length)).foldl (fun (acc : Nat × Option Nat) (d, i) =>
        match acc with
        | (_, some k) => (0, some k)
        | (v, none) => if v * 10 + d > 2147483647 then (0, some i) else (v * 10 + d, none)) (0, none)
      match overflow with
      | (v, none) => return some (if positive then (v : Int) else -(v : Int))
      | (_, some i) =>
        if nonZero && positive then
          let c ← get
          -- the reader stops right after the digit that does not fit
          let after := ds.length - (i + 1)
          throw (.malformed .numberOutOfRange (c.offset - after))
        else return none

/-- Reads a numeral whose sign, if any, has been read. -/
def numeral (minus : Bool) : Reading Number := do
  let whole ← match ← peek with
    | none => failHere .eofWhileParsingValue
    | some '0' =>
      bump
      match ← peek with
      | some d => if d.isDigit then failPeek .invalidNumber else pure [0]
      | none => pure [0]
    | some x =>
      if x.isDigit then
        bump
        let rest ← digits
        pure ((x.toNat - '0'.toNat) :: rest)
      else failAfterByte .invalidNumber
  let fraction ← match ← peek with
    | some '.' =>
      bump
      let ds ← digits
      if ds.isEmpty then
        match ← peek with
        | some _ => failPeek .invalidNumber
        | none => failPeek .eofWhileParsingValue
      else pure (some ds)
    | _ => pure none
  let sig := (Significand.addWhole {} whole).addFraction (fraction.getD [])
  let written ← match ← peek with
    | some 'e' | some 'E' =>
      bump
      let positive ← match ← peek with
        | some '+' => do bump; pure true
        | some '-' => do bump; pure false
        | _ => pure true
      match ← exponentDigits positive (sig.value ≠ 0) with
      | some e => pure (some (some e))
      | none => pure none
    | _ => pure (some none)
  match written with
  | none => return .double minus Decimal.Binary.zero
  | some w =>
    match Number.ofParts minus whole fraction w with
    | some n => return n
    | none => failHere .numberOutOfRange

/-- Skips a numeral whose sign, if any, has been read, checking its form only. -/
def skipNumeral : Reading Unit := do
  match ← peek with
  | none => failHere .invalidNumber
  | some '0' =>
    bump
    match ← peek with
    | some d => if d.isDigit then failPeek .invalidNumber else pure ()
    | none => pure ()
  | some x =>
    if x.isDigit then
      bump
      let _ ← digits
    else failAfterByte .invalidNumber
  let skipExponent : Reading Unit := do
    bump
    match ← peek with
    | some '+' | some '-' => bump
    | _ => pure ()
    match ← peek with
    | none => failHere .invalidNumber
    | some d =>
      if d.isDigit then
        bump
        let _ ← digits
      else failAfterByte .invalidNumber
  match ← peek with
  | some '.' =>
    bump
    let ds ← digits
    if ds.isEmpty then failPeek .invalidNumber
    else
      match ← peek with
      | some 'e' | some 'E' => skipExponent
      | _ => pure ()
  | some 'e' | some 'E' => skipExponent
  | _ => pure ()

/-- Fails because the next datum is not of the shape expected: scalars are read first, so the
fault stands after them; a list or an object is not read. -/
def unexpected {α} (fuel : Nat) (expected : String) : Reading α := do
  match ← peek with
  | some 'n' => bump; word ['u', 'l', 'l']; failData (.invalidType .null expected)
  | some 't' => bump; word ['r', 'u', 'e']; failData (.invalidType (.bool true) expected)
  | some 'f' => bump; word ['a', 'l', 's', 'e']; failData (.invalidType (.bool false) expected)
  | some '-' => bump; let n ← numeral true; failData (.invalidType (.number n) expected)
  | some '"' => bump; let s ← stringBody fuel []; failData (.invalidType (.str s) expected)
  | some '[' => failData (.invalidType .list expected)
  | some '{' => failData (.invalidType .map expected)
  | some x =>
    if x.isDigit then
      let n ← numeral false
      failData (.invalidType (.number n) expected)
    else failPeek .expectedSomeValue
  | none => failPeek .expectedSomeValue

/-- Reads the colon between a key and its value. -/
def colon : Reading Unit := do
  match ← peekToken with
  | some ':' => bump
  | some _ => failPeek .expectedColon
  | none => failPeek .eofWhileParsingObject

/-- Closes frames after a skipped value or an opened one (`comma` tells which); none when the
outermost frame is closed, else the frame to go on in and the frames around it. -/
def closeFrames : Nat → Char → Bool → List Char → Reading (Option (Char × List Char))
  | 0, _, _, _ => failPeek .eofWhileParsingValue
  | fuel + 1, frame, comma, stack => do
    let next ← peekToken
    let closes := (next = some ']' ∧ frame = '[') ∨ (next = some '}' ∧ frame = '{')
    if comma ∧ next = some ',' then
      bump
      return some (frame, stack)
    else if closes then
      bump
      match stack with
      | [] => return none
      | f :: fs => closeFrames fuel f true fs
    else if comma then
      match next with
      | some _ => failPeek (if frame = '[' then .expectedListCommaOrEnd else .expectedObjectCommaOrEnd)
      | none => failPeek (if frame = '[' then .eofWhileParsingList else .eofWhileParsingObject)
    else return some (frame, stack)

/-- Skips values: `enclosing` is the innermost open list or object, `stack` those around it. -/
def skipFrom : Nat → Option Char → List Char → Reading Unit
  | 0, _, _ => failPeek .eofWhileParsingValue
  | fuel + 1, enclosing, stack => do
    let opened ← match ← peekToken with
      | none => failPeek .eofWhileParsingValue
      | some 'n' => do bump; word ['u', 'l', 'l']; pure none
      | some 't' => do bump; word ['r', 'u', 'e']; pure none
      | some 'f' => do bump; word ['a', 'l', 's', 'e']; pure none
      | some '-' => do bump; skipNumeral; pure none
      | some '"' => do bump; skipString fuel; pure none
      | some '[' => do bump; pure (some '[')
      | some '{' => do bump; pure (some '{')
      | some x => if x.isDigit then do skipNumeral; pure none else failPeek .expectedSomeValue
    let (stack, start) := match opened with
      | some f => (enclosing.toList ++ stack, some (f, false))
      | none => match enclosing with
        | some f => (stack, some (f, true))
        | none => match stack with
          | f :: fs => (fs, some (f, true))
          | [] => (stack, none)
    match start with
    | none => pure ()
    | some (frame, comma) =>
      match ← closeFrames fuel frame comma stack with
      | none => pure ()
      | some (frame, stack) =>
        if frame = '{' then
          match ← peekToken with
          | some '"' => bump
          | some _ => failPeek .keyMustBeAString
          | none => failPeek .eofWhileParsingObject
          skipString fuel
          colon
        skipFrom fuel (some frame) stack

/-- What comes before the next item of a list: none at its end. -/
def nextItem (first : Bool) : Reading Bool := do
  match ← peekToken with
  | some ']' => return false
  | some ',' =>
    if first then pure ()
    else
      bump
      skipBlank
  | some _ => if first then pure () else failPeek .expectedListCommaOrEnd
  | none => failPeek .eofWhileParsingList
  match ← peek with
  | some ']' => failPeek .trailingComma
  | some _ => return true
  | none => failPeek .eofWhileParsingValue

/-- The end of a list whose items have all been read. -/
def endList : Reading Unit := do
  match ← peekToken with
  | some ']' => bump
  | some ',' =>
    bump
    match ← peekToken with
    | some ']' => failPeek .trailingComma
    | _ => failPeek .trailingCharacters
  | some _ => failPeek .trailingCharacters
  | none => failPeek .eofWhileParsingList

/-- The next key of an object: none at its end. -/
def nextKey (fuel : Nat) (first : Bool) : Reading (Option String) := do
  match ← peekToken with
  | some '}' => return none
  | some ',' =>
    if first then pure ()
    else
      bump
      skipBlank
  | some _ => if first then pure () else failPeek .expectedObjectCommaOrEnd
  | none => failPeek .eofWhileParsingObject
  match ← peek with
  | some '"' =>
    bump
    return some (← stringBody fuel [])
  | some '}' => failPeek .trailingComma
  | some _ => failPeek .keyMustBeAString
  | none => failPeek .eofWhileParsingValue

mutual

/-- Reads a datum of a shape. -/
def datum : Nat → Shape → Reading Datum
  | 0, _ => failPeek .eofWhileParsingValue
  | fuel + 1, shape => do
    match shape with
    | .optional inner =>
      match ← peekToken with
      | some 'n' =>
        bump
        word ['u', 'l', 'l']
        return .null
      | _ => datum fuel inner
    | _ =>
    match ← peekToken with
    | none => failPeek .eofWhileParsingValue
    | some x =>
    match shape, x with
    | .text, '"' => do bump; return .str (← stringBody fuel [])
    | .flag, 't' => do bump; word ['r', 'u', 'e']; return .bool true
    | .flag, 'f' => do bump; word ['a', 'l', 's', 'e']; return .bool false
    | .count, '-' => do
      bump
      match countOf "usize" (← numeral true) with
      | .ok d => return d
      | .error e => failData e
    | .list item, '[' => do
      bump
      let items ← listItems fuel item true []
      endList
      return .arr items
    | .record _ fields, '[' => do
      bump
      let fs ← recordItems fuel fields true
      endList
      return .obj fs
    | .record _ fields, '{' => do
      bump
      let fs ← recordFields fuel fields true [] []
      skipBlank
      bump
      return .obj fs
    | .choice names, '"' => do
      bump
      let name ← stringBody fuel []
      match choiceOf names name with
      | .ok d => return d
      | .error e => failData e
    | .choice names, '{' => do
      bump
      skipBlank
      let d ← match ← peek with
        | some '"' => do
          bump
          let name ← stringBody fuel []
          match choiceOf names name with
          | .ok d => pure d
          | .error e => failData e
        | some _ => unexpected fuel "variant identifier"
        | none => failPeek .eofWhileParsingValue
      colon
      match ← peekToken with
      | some 'n' => do bump; word ['u', 'l', 'l']
      | some _ => unexpected fuel "unit"
      | none => failPeek .eofWhileParsingValue
      match ← peekToken with
      | some '}' => do bump; return d
      | some _ => failHere .expectedSomeValue
      | none => failHere .eofWhileParsingObject
    | .choice _, _ => failPeek .expectedSomeValue
    | .count, x =>
      if x.isDigit then
        match countOf "usize" (← numeral false) with
        | .ok d => return d
        | .error e => failData e
      else unexpected fuel shape.expected
    | _, _ => unexpected fuel shape.expected

/-- Reads the items of a list, after its opening bracket. -/
def listItems : Nat → Shape → Bool → List Datum → Reading (List Datum)
  | 0, _, _, _ => failPeek .eofWhileParsingList
  | fuel + 1, item, first, acc => do
    if ← nextItem first then
      let d ← datum fuel item
      listItems fuel item false (acc ++ [d])
    else return acc

/-- Reads the fields of a record given as a list, in order; fields past its end stay absent. -/
def recordItems : Nat → List (String × Shape) → Bool → Reading (List (String × Datum))
  | 0, _, _ => failPeek .eofWhileParsingList
  | _, [], _ => return []
  | fuel + 1, (k, s) :: fs, first => do
    if ← nextItem first then
      let d ← datum fuel s
      let rest ← recordItems fuel fs false
      return (k, d) :: rest
    else recordItems fuel fs first

/-- Reads the fields of a record given as an object, after its opening brace; `seen` holds the
keys read so far. -/
def recordFields : Nat → List (String × Shape) → Bool → List String → List (String × Datum) →
    Reading (List (String × Datum))
  | 0, _, _, _, _ => failPeek .eofWhileParsingObject
  | fuel + 1, fields, first, seen, acc => do
    match ← nextKey fuel first with
    | none => return acc
    | some key =>
      match fields.find? (·.1 == key) with
      | some (_, s) =>
        if seen.contains key then
          skipBlank
          if (← peek) = some '}' then bump
          failData (.duplicateField key)
        else
          colon
          let d ← datum fuel s
          recordFields fuel fields false (key :: seen) (acc ++ [(key, d)])
      | none =>
        colon
        skipFrom fuel none []
        recordFields fuel fields false seen acc

end

end Reading

/-- Reads JSON text against a shape; nothing but blanks may follow the datum. -/
def Shape.readText (shape : Shape) (input : String) : Except ReadFault Datum :=
  let fuel := 2 * input.utf8ByteSize + 64
  let run : Reading Datum := do
    let d ← Reading.datum fuel shape
    match ← Reading.peekToken with
    | some _ => Reading.failPeek .trailingCharacters
    | none => return d
  (run.run ⟨input.toList, 0, input.utf8ByteSize⟩).map (·.1)

end Phrasebook.Json
