import Phrasebook.Markup.Escape

/-! # Attributes of a start tag

The attributes of a tag are read from its content (the text between `<` and `>`, after the
element name) one character at a time. Every attribute must be `key="value"` or `key='value'`,
with blanks allowed around `=`. A key may appear more than once; the first occurrence counts.

`Tag.rawAttribute` reads attributes up to the first one with the wanted key. A fault in an attribute after
that one is never seen, and a fault before it is reported even though the wanted key comes later.
Positions in errors are byte offsets in the tag content, counted from the first byte after `<`.
-/

namespace Phrasebook.Markup

/-- Why an attribute list cannot be read. -/
inductive AttrError where
  /-- A key is followed by something other than `=` or blanks. -/
  | expectedEq (pos : Nat)
  /-- An `=` is followed by nothing. -/
  | expectedValue (pos : Nat)
  /-- A value does not start with a quote. -/
  | unquotedValue (pos : Nat)
  /-- A quoted value has no closing quote. -/
  | expectedQuote (pos : Nat) (quote : Char)
  deriving Repr, DecidableEq

namespace AttrError

/-- The sentence that names the error. -/
def message : AttrError → String
  | .expectedEq p => s!"position {p}: attribute key must be directly followed by `=` or space"
  | .expectedValue p => s!"position {p}: `=` must be followed by an attribute value"
  | .unquotedValue p => s!"position {p}: attribute value must be enclosed in `\"` or `'`"
  | .expectedQuote p q => s!"position {p}: missing closing quote `{q}` in attribute value"

end AttrError

/-- The blanks of markup: space, tab, carriage return and line feed. -/
def isBlank (c : Char) : Bool :=
  c = ' ' || c = '\t' || c = '\r' || c = '\n'

/-- Where the attribute reader stands. Keys and values are kept reversed while they grow. -/
inductive AttrState where
  /-- Between attributes, skipping blanks. -/
  | between
  /-- Inside a key. -/
  | key (rev : List Char)
  /-- After a key, before its `=`. -/
  | afterKey (key : List Char)
  /-- After `=`, before the opening quote. -/
  | afterEq (key : List Char)
  /-- Inside a value quoted by `quote`. -/
  | value (key : List Char) (quote : Char) (rev : List Char)

/-- Reads attributes from `rest` (which starts at byte `pos` of a content of `total` bytes) until
one has the key `wanted`. -/
def lookupFrom (wanted : List Char) (total : Nat) :
    AttrState → Nat → List Char → Except AttrError (Option (List Char))
  | .between, _, [] => .ok none
  | .key _, _, [] => .error (.expectedEq total)
  | .afterKey _, _, [] => .error (.expectedEq total)
  | .afterEq _, _, [] => .error (.expectedValue total)
  | .value _ q _, _, [] => .error (.expectedQuote total q)
  | .between, pos, c :: cs =>
    if isBlank c then lookupFrom wanted total .between (pos + c.utf8Size) cs
    else lookupFrom wanted total (.key [c]) (pos + c.utf8Size) cs
  | .key rev, pos, c :: cs =>
    if c = '=' then lookupFrom wanted total (.afterEq rev.reverse) (pos + 1) cs
    else if isBlank c then
      lookupFrom wanted total (.afterKey rev.reverse) (pos + c.utf8Size) cs
    else lookupFrom wanted total (.key (c :: rev)) (pos + c.utf8Size) cs
  | .afterKey key, pos, c :: cs =>
    if isBlank c then lookupFrom wanted total (.afterKey key) (pos + c.utf8Size) cs
    else if c = '=' then lookupFrom wanted total (.afterEq key) (pos + 1) cs
    else .error (.expectedEq pos)
  | .afterEq key, pos, c :: cs =>
    if isBlank c then lookupFrom wanted total (.afterEq key) (pos + c.utf8Size) cs
    else if c = '"' || c = apostrophe then
      lookupFrom wanted total (.value key c []) (pos + 1) cs
    else .error (.unquotedValue pos)
  | .value key q rev, pos, c :: cs =>
    if c = q then
      if key == wanted then .ok (some rev.reverse)
      else lookupFrom wanted total .between (pos + 1) cs
    else lookupFrom wanted total (.value key q (c :: rev)) (pos + c.utf8Size) cs

/-- A tag as the scanner delivers it: its name and its whole content between `<` and `>`
(without the `/` of an empty-element tag). -/
structure Tag where
  name : String
  content : List Char
  deriving Repr, DecidableEq

/-- A name without its namespace prefix: the text after the first `:`. -/
def localName (name : String) : String :=
  match name.toList.span (· ≠ ':') with
  | (_, _ :: rest) => String.ofList rest
  | (_, []) => name

namespace Tag

/-- The tag's name without its namespace prefix. -/
def localName (t : Tag) : String :=
  Markup.localName t.name

/-- The raw (still escaped) value of the first attribute with key `key`, reading attributes only
as far as that one. -/
def rawAttribute (t : Tag) (key : String) : Except AttrError (Option (List Char)) :=
  let nameLength := t.name.toList.length
  lookupFrom key.toList (String.ofList t.content).utf8ByteSize .between
    t.name.utf8ByteSize (t.content.drop nameLength)

end Tag

end Phrasebook.Markup
