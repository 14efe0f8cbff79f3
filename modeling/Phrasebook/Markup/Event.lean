import Phrasebook.Markup.Attribute

/-! # Markup events

`scan` cuts a document into events: start tags, empty-element tags, end tags, character data,
CDATA sections, and asides (comments, processing instructions, the XML declaration and the
document type declaration), which carry nothing a reader of catalogs needs.

The scanner checks what it needs to find the end of each construct, and that every end tag
closes the element opened last. It stops at the first fault; the events before the fault are
kept in the `Trace`, so that a reader of the events can report a fault of its own that comes
first. Character data is delivered raw: references in it are resolved by the reader.

A `>` inside a quoted attribute value does not end a tag, and a `<!DOCTYPE` declaration ends
at the `>` that balances the `<` inside it. A CDATA section opens with `<![CDATA[` in exactly
that case, while `DOCTYPE` may be written in any case.
-/

namespace Phrasebook.Markup

/-- A construct that is not closed before the end of the input, or a `<!` that starts nothing
known. -/
inductive SyntaxFault where
  /-- `<!` followed by neither `[`, `-` nor `D`. -/
  | bangMarkup
  /-- A processing instruction or declaration without `?>`. -/
  | processing
  /-- A comment without `-->`. -/
  | comment
  /-- A document type declaration without its `>`. -/
  | doctype
  /-- A CDATA section without `]]>`. -/
  | cdata
  /-- A tag without `>`. -/
  | tag
  deriving Repr, DecidableEq

namespace SyntaxFault

/-- The sentence that names the fault. -/
def message : SyntaxFault → String
  | .bangMarkup => "unknown or missed symbol in markup"
  | .processing =>
    "processing instruction or xml declaration not closed: `?>` not found before end of input"
  | .comment => "comment not closed: `-->` not found before end of input"
  | .doctype => "DOCTYPE not closed: `>` not found before end of input"
  | .cdata => "CDATA not closed: `]]>` not found before end of input"
  | .tag => "tag not closed: `>` not found before end of input"

end SyntaxFault

/-- Why a text is not well-formed markup. -/
inductive MarkupError where
  /-- A construct is not closed. -/
  | malformed (fault : SyntaxFault)
  /-- `<!DOCTYPE>` names no document type. -/
  | doctypeWithoutName
  /-- An end tag while no element is open. -/
  | unmatchedClose (name : String)
  /-- An end tag that does not close the element opened last. -/
  | mismatchedClose (expected found : String)
  /-- A reference in text or in an attribute value. -/
  | escape (e : EscapeError)
  deriving Repr, DecidableEq

namespace MarkupError

/-- The sentence that names the error. -/
def message : MarkupError → String
  | .malformed f => "syntax error: " ++ f.message
  | .doctypeWithoutName =>
    "ill-formed document: `<!DOCTYPE>` declaration does not contain a name of a document type"
  | .unmatchedClose n => "ill-formed document: close tag `</" ++ n ++ ">` does not match any open tag"
  | .mismatchedClose e f =>
    "ill-formed document: expected `</" ++ e ++ ">`, but `</" ++ f ++ ">` was found"
  | .escape e => e.message

end MarkupError

/-- One step of a document. -/
inductive Event where
  /-- `<name ...>` -/
  | start (tag : Tag)
  /-- `<name .../>` -/
  | empty (tag : Tag)
  /-- `</name>` -/
  | close (name : String)
  /-- Character data between tags, still with its references. -/
  | text (raw : List Char)
  /-- The content of `<![CDATA[...]]>`, taken as it stands. -/
  | cdata (content : List Char)
  /-- A comment, processing instruction, declaration or document type declaration. -/
  | aside
  deriving Repr, DecidableEq

/-- The events of a document: a list that ends either at the end of the input or at a fault. -/
inductive Trace where
  /-- The input ended. -/
  | done
  /-- The input is malformed here. -/
  | fail (e : MarkupError)
  /-- An event, then the rest. -/
  | event (e : Event) (rest : Trace)
  deriving Repr, DecidableEq

/-- Cuts `s` at the first `>` that `ends` accepts, given the state that `update` has walked over
the characters before it; `acc` holds the characters before `s`, reversed. -/
def cutAt {σ : Type} (update : σ → Char → σ) (ends : σ → List Char → Bool) :
    σ → List Char → List Char → Option (List Char × List Char)
  | _, _, [] => none
  | st, acc, c :: cs =>
    if c = '>' && ends st acc then some (acc.reverse, cs)
    else cutAt update ends (update st c) (c :: acc) cs

/-- What follows a cut is shorter than what was cut. -/
theorem cutAt_length {σ : Type} {update : σ → Char → σ} {ends : σ → List Char → Bool} :
    ∀ {st : σ} {acc s b r : List Char}, cutAt update ends st acc s = some (b, r) →
      r.length < s.length
  | _, _, [], _, _, h => by simp [cutAt] at h
  | st, acc, c :: cs, b, r, h => by
    unfold cutAt at h
    split at h
    · simp only [Option.some.injEq, Prod.mk.injEq] at h
      rw [← h.2]
      simp
    · have := cutAt_length h
      simp only [List.length_cons]
      omega

/-- Which quotes enclose the current character of a tag. -/
inductive Quoting where
  | outside
  | single
  | double
  deriving Repr, DecidableEq

namespace Quoting

/-- The quoting after one more character. -/
def step : Quoting → Char → Quoting
  | .outside, c => if c = apostrophe then .single else if c = '"' then .double else .outside
  | .single, c => if c = apostrophe then .outside else .single
  | .double, c => if c = '"' then .outside else .double

end Quoting

/-- The end of a tag: the first `>` outside quotes. -/
def cutTag (s : List Char) : Option (List Char × List Char) :=
  cutAt Quoting.step (fun q _ => q == .outside) .outside [] s

/-- The end of a processing instruction: the first `>` right after a `?`. -/
def cutProcessing (s : List Char) : Option (List Char × List Char) :=
  cutAt (fun _ _ => ()) (fun _ acc => acc.head? == some '?') () [] s

/-- The end of a comment: the first `>` after `--`, at least five characters after the `!`. -/
def cutComment (s : List Char) : Option (List Char × List Char) :=
  cutAt (fun _ _ => ()) (fun _ acc => acc.length > 4 && acc.take 2 == ['-', '-']) () [] s

/-- The end of a CDATA section: the first `>` after `]]`. -/
def cutCData (s : List Char) : Option (List Char × List Char) :=
  cutAt (fun _ _ => ()) (fun _ acc => acc.take 2 == [']', ']']) () [] s

/-- The end of a document type declaration: the first `>` that balances every `<` before it. -/
def cutDoctype (s : List Char) : Option (List Char × List Char) :=
  cutAt (fun (depth : Nat) c => if c = '<' then depth + 1 else if c = '>' then depth - 1 else depth)
    (fun depth _ => depth == 0) 0 [] s

/-- Whether `s` starts with `prefix`, ignoring the case of ASCII letters. -/
def startsUncased (s : List Char) (pre : String) : Bool :=
  (s.take pre.length).map Char.toLower == pre.toList.map Char.toLower

/-- The name of a tag: its content up to the first blank. -/
def nameOf (content : List Char) : String :=
  String.ofList (content.takeWhile (fun c => !isBlank c))

/-- The name in an end tag: its content without trailing blanks (kept whole when it is all
blanks). -/
def closeName (content : List Char) : String :=
  let trimmed := (content.reverse.dropWhile isBlank).reverse
  String.ofList (if trimmed.isEmpty then content else trimmed)

/-- The construct after `<!`; `s` starts at the `!`. -/
def bangStep (s : List Char) : Except MarkupError (Event × { r : List Char // r.length < s.length }) :=
  match s.drop 1 with
  | '[' :: _ =>
    match h : cutCData s with
    | none => .error (.malformed .cdata)
    | some (buf, r) =>
      if buf.take 8 == "![CDATA[".toList then
        .ok (.cdata ((buf.drop 8).take (buf.length - 10)), ⟨r, cutAt_length h⟩)
      else .error (.malformed .cdata)
  | '-' :: _ =>
    match h : cutComment s with
    | none => .error (.malformed .comment)
    | some (buf, r) =>
      if buf.take 3 == ['!', '-', '-'] then .ok (.aside, ⟨r, cutAt_length h⟩)
      else .error (.malformed .comment)
  | 'D' :: _ => doctype
  | 'd' :: _ => doctype
  | _ => .error (.malformed .bangMarkup)
where
  /-- A document type declaration; it must name a type. -/
  doctype : Except MarkupError (Event × { r : List Char // r.length < s.length }) :=
    match h : cutDoctype s with
    | none => .error (.malformed .doctype)
    | some (buf, r) =>
      if startsUncased buf "!DOCTYPE" then
        if (buf.drop 8).all isBlank then .error .doctypeWithoutName
        else .ok (.aside, ⟨r, cutAt_length h⟩)
      else .error (.malformed .doctype)

/-- The construct after `<?`; `s` starts at the `?`. -/
def processingStep (s : List Char) :
    Except MarkupError (Event × { r : List Char // r.length < s.length }) :=
  match h : cutProcessing s with
  | none => .error (.malformed .processing)
  | some (buf, r) =>
    if buf.length > 1 then .ok (.aside, ⟨r, cutAt_length h⟩) else .error (.malformed .processing)

/-- An end tag; `s` starts at the `/`. The tag must close the element opened last. -/
def closeStep (opened : List String) (s : List Char) :
    Except MarkupError (Event × List String × { r : List Char // r.length < s.length }) :=
  match h : cutTag s with
  | none => .error (.malformed .tag)
  | some (buf, r) =>
    let name := closeName (buf.drop 1)
    match opened with
    | [] => .error (.unmatchedClose name)
    | top :: outer =>
      if top = name then .ok (.close name, outer, ⟨r, cutAt_length h⟩)
      else .error (.mismatchedClose top name)

/-- A start or empty-element tag; `s` starts right after the `<`. -/
def openStep (opened : List String) (s : List Char) :
    Except MarkupError (Event × List String × { r : List Char // r.length < s.length }) :=
  match h : cutTag s with
  | none => .error (.malformed .tag)
  | some (buf, r) =>
    if buf.getLast? == some '/' then
      let content := buf.dropLast
      .ok (.empty ⟨nameOf content, content⟩, opened, ⟨r, cutAt_length h⟩)
    else .ok (.start ⟨nameOf buf, buf⟩, nameOf buf :: opened, ⟨r, cutAt_length h⟩)

/-- The construct after a `<`, the open elements after it, and the rest of the input. -/
def markupStep (opened : List String) (s : List Char) :
    Except MarkupError (Event × List String × { r : List Char // r.length < s.length }) :=
  match s with
  | [] => .error (.malformed .tag)
  | '!' :: more =>
    match bangStep ('!' :: more) with
    | .ok (ev, r) => .ok (ev, opened, r)
    | .error e => .error e
  | '?' :: more =>
    match processingStep ('?' :: more) with
    | .ok (ev, r) => .ok (ev, opened, r)
    | .error e => .error e
  | '/' :: more => closeStep opened ('/' :: more)
  | c :: more => openStep opened (c :: more)

/-- Scans from the current point: `opened` are the open elements, innermost first, and
`pending` the character data read since the last markup, reversed. -/
def scanFrom (opened : List String) (pending : List Char) : List Char → Trace
  | [] => if pending.isEmpty then .done else .event (.text pending.reverse) .done
  | c :: cs =>
    if c = '<' then
      let next := match markupStep opened cs with
        | .error e => .fail e
        | .ok (ev, opened', ⟨r, _⟩) => .event ev (scanFrom opened' [] r)
      if pending.isEmpty then next else .event (.text pending.reverse) next
    else scanFrom opened (c :: pending) cs
termination_by s => s.length

/-- The events of a document. A byte order mark at the start is skipped. -/
def scan (input : String) : Trace :=
  match input.toList with
  | c :: cs => if c = Char.ofNat 0xFEFF then scanFrom [] [] cs else scanFrom [] [] (c :: cs)
  | [] => .done

end Phrasebook.Markup
