import Phrasebook.Markup.Escape

/-! # Writing markup with indentation

Output markup is a list of pieces. Every piece except text starts on a new line, indented by
four spaces per open element, unless text came right before it; the first piece starts the
output. So an element that holds only text stays on one line (`<name>C</name>`, also
`<name></name>` for an empty text), and an element that holds elements has its end tag on a line
of its own, even when it holds none of them.
-/

namespace Phrasebook.Markup

/-- A piece of output markup. Attribute values and text are escaped when written. -/
inductive Piece where
  /-- `<?content?>` -/
  | declaration (content : String)
  /-- `<!DOCTYPE content>` -/
  | doctype (content : String)
  /-- `<name a="v">` -/
  | start (name : String) (attrs : List (String × String))
  /-- `</name>` -/
  | close (name : String)
  /-- `<name a="v"/>` -/
  | empty (name : String) (attrs : List (String × String))
  /-- Character data. -/
  | text (s : String)
  deriving Repr, DecidableEq

/-- Attributes as written after an element name. -/
def renderAttributes (attrs : List (String × String)) : String :=
  String.join (attrs.map fun (k, v) => " " ++ k ++ "=\"" ++ escape v ++ "\"")

/-- The state of the writer: the text so far, the depth of open elements, and whether the next
piece starts a new line. -/
structure Pen where
  out : String := ""
  depth : Nat := 0
  breakLine : Bool := false
  deriving Repr, DecidableEq

namespace Pen

/-- Starts a new line at the current depth, if one is due. -/
def newline (p : Pen) : Pen :=
  if p.breakLine then
    { p with out := p.out ++ "\n" ++ String.ofList (List.replicate (4 * p.depth) ' ') }
  else p

/-- Writes one piece. -/
def put (p : Pen) : Piece → Pen
  | .text s => { p with out := p.out ++ escape s, breakLine := false }
  | .start n as =>
    let q := p.newline
    { q with out := q.out ++ "<" ++ n ++ renderAttributes as ++ ">", depth := p.depth + 1,
             breakLine := true }
  | .close n =>
    let q := { p with depth := p.depth - 1 }.newline
    { q with out := q.out ++ "</" ++ n ++ ">", breakLine := true }
  | .empty n as =>
    let q := p.newline
    { q with out := q.out ++ "<" ++ n ++ renderAttributes as ++ "/>", breakLine := true }
  | .declaration c =>
    let q := p.newline
    { q with out := q.out ++ "<?" ++ c ++ "?>", breakLine := true }
  | .doctype c =>
    let q := p.newline
    { q with out := q.out ++ "<!DOCTYPE " ++ c ++ ">", breakLine := true }

end Pen

/-- Writes pieces from the start of an output. -/
def layout (pieces : List Piece) : String :=
  (pieces.foldl Pen.put {}).out

end Phrasebook.Markup
