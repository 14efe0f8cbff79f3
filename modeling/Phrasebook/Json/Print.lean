import Phrasebook.Json.Value

/-! # Writing JSON text

A value is written with two spaces of indent per level, one field or item per line, `": "`
between a key and its value, and `[]` or `{}` for an empty list or object. In strings the quote
and the backslash are escaped, as are the control characters: by `\b`, `\t`, `\n`, `\f`, `\r`,
else by `\u00xx` with lowercase hex digits; all other characters stand as they are.
-/

namespace Phrasebook.Json

/-- A hex digit, lowercase. -/
def hexDigit (n : Nat) : Char :=
  if n < 10 then Char.ofNat (48 + n) else Char.ofNat (87 + n)

/-- The escaped form of one character in a JSON string. -/
def escapeChar (c : Char) : String :=
  if c = '"' then "\\\""
  else if c = '\\' then "\\\\"
  else if c.toNat = 8 then "\\b"
  else if c = '\t' then "\\t"
  else if c = '\n' then "\\n"
  else if c.toNat = 12 then "\\f"
  else if c = '\r' then "\\r"
  else if c.toNat < 32 then
    "\\u00" ++ String.singleton (hexDigit (c.toNat / 16)) ++ String.singleton (hexDigit (c.toNat % 16))
  else String.singleton c

/-- A JSON string. -/
def quoteString (s : String) : String :=
  "\"" ++ String.join (s.toList.map escapeChar) ++ "\""

/-- Indent of a level. -/
def indent (level : Nat) : String :=
  String.ofList (List.replicate (2 * level) ' ')

mutual

/-- A value written at an indent level. -/
def Value.prettyAt (level : Nat) : Value → String
  | .null => "null"
  | .bool b => toString b
  | .num n => toString n
  | .str s => quoteString s
  | .arr [] => "[]"
  | .arr items => "[\n" ++ prettyItems (level + 1) items ++ "\n" ++ indent level ++ "]"
  | .obj [] => "\x7b\x7d"
  | .obj fields => "\x7b\n" ++ prettyFields (level + 1) fields ++ "\n" ++ indent level ++ "\x7d"

/-- Items of a list, one per line. -/
def prettyItems (level : Nat) : List Value → String
  | [] => ""
  | [v] => indent level ++ v.prettyAt level
  | v :: vs => indent level ++ v.prettyAt level ++ ",\n" ++ prettyItems level vs

/-- Fields of an object, one per line. -/
def prettyFields (level : Nat) : List (String × Value) → String
  | [] => ""
  | [(k, v)] => indent level ++ quoteString k ++ ": " ++ v.prettyAt level
  | (k, v) :: fs => indent level ++ quoteString k ++ ": " ++ v.prettyAt level ++ ",\n" ++ prettyFields level fs

end

/-- A value written over several lines. -/
def Value.pretty (v : Value) : String :=
  v.prettyAt 0

end Phrasebook.Json
