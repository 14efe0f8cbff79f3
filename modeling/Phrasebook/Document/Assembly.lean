import Phrasebook.Document.Basic
import Phrasebook.Document.Error

/-! # Reading a document from its markup

A document is assembled from the markup events of a catalog file, one event at a time. The
assembly holds the document, the context and the entry being read, and one text buffer.

* `TS` starts the document (only once), `context` a context (only inside the document, not
  inside another context, and not after `</TS>`), `message` an entry (only inside a context, and
  not inside another entry). Other elements between them are transparent.
* The starts of `name` (in a context, outside an entry), `source`, `comment`, `extracomment`,
  `translatorcomment` (in an entry), `translation` (in an entry without plural forms) and
  `numerusform` (in an entry with plural forms) empty the buffer; text is added to the buffer
  while there is one; the matching end takes the buffer away and stores it, so that text after
  a nested element is dropped.
* An entry read without any `translation` element is unfinished.
* At the end of the input an open entry, an open context or an unclosed document is an error,
  in that order, and so is a missing document.
-/

namespace Phrasebook

/-- An entry being read. -/
structure PendingEntry where
  entry : Entry := {}
  /-- The entry has plural forms (`numerus="yes"`). -/
  numerus : Bool := false
  forms : List String := []
  /-- A `translation` element has been seen. -/
  hasTarget : Bool := false
  deriving Repr, DecidableEq

namespace PendingEntry

/-- The entry as it stands when its element closes. -/
def complete (p : PendingEntry) : Entry :=
  let e := if p.numerus then { p.entry with target := .plural p.forms } else p.entry
  if p.hasTarget then e else { e with status := .unfinished }

end PendingEntry

/-- What the reader holds between two events. -/
structure Assembly where
  document : Option Document := none
  context : Option Context := none
  pending : Option PendingEntry := none
  buffer : Option String := none
  /-- `</TS>` has been seen. -/
  closed : Bool := false
  deriving Repr, DecidableEq

namespace Assembly

/-- The unescaped value of a tag's attribute. -/
def attrValue (t : Markup.Tag) (key : String) : Except ReadError (Option String) :=
  match t.rawAttribute key with
  | .error e => .error (.attribute e)
  | .ok none => .ok none
  | .ok (some raw) =>
    match Markup.unescape raw with
    | .ok s => .ok (some s)
    | .error e => .error (.markup (.escape e))

/-- An empty text stands for no text. -/
def nonEmpty (s : String) : Option String :=
  if s.isEmpty then none else some s

/-- The assembly with an empty buffer. -/
def resetBuffer (a : Assembly) : Assembly :=
  { a with buffer := some "" }

/-- Updates the entry being read, if there is one. -/
def withPending (a : Assembly) (f : PendingEntry → PendingEntry) : Assembly :=
  { a with pending := a.pending.map f }

/-- The start of an element. -/
def startElement (a : Assembly) (t : Markup.Tag) : Except ReadError Assembly :=
  match t.localName with
  | "TS" =>
    if a.document.isSome then .error .multipleRoots
    else do
      let version ← attrValue t "version"
      let language ← attrValue t "language"
      let sourceLanguage ← attrValue t "sourcelanguage"
      pure { a with document := some { version := version.getD "2.1",
                                       language := language.bind nonEmpty,
                                       sourceLanguage := sourceLanguage.bind nonEmpty } }
  | "context" =>
    if a.document.isNone || a.context.isSome || a.closed then .error (.misplaced "context" "TS")
    else .ok { a with context := some {} }
  | "name" =>
    .ok (if a.context.isSome && a.pending.isNone then a.resetBuffer else a)
  | "message" =>
    if a.context.isNone || a.pending.isSome then .error (.misplaced "message" "context")
    else do
      let numerus ← attrValue t "numerus"
      pure { a with pending := some { numerus := numerus == some "yes" } }
  | "location" =>
    match a.pending with
    | none => .error (.misplaced "location" "message")
    | some _ => do
      let file ← attrValue t "filename"
      let line ← attrValue t "line"
      let loc : Location := { file := file.getD "", line := line.bind fun l => (Line.parse l).toOption }
      pure (a.withPending fun p => { p with entry := { p.entry with locations := p.entry.locations ++ [loc] } })
  | "source" => .ok (if a.pending.isSome then a.resetBuffer else a)
  | "comment" => .ok (if a.pending.isSome then a.resetBuffer else a)
  | "extracomment" => .ok (if a.pending.isSome then a.resetBuffer else a)
  | "translatorcomment" => .ok (if a.pending.isSome then a.resetBuffer else a)
  | "translation" =>
    match a.pending with
    | none => .error (.misplaced "translation" "message")
    | some p => do
      let kind ← attrValue t "type"
      match Status.ofAttribute kind with
      | none => .error (.unknownStatus (kind.getD ""))
      | some st =>
        let a' := a.withPending fun p => { p with entry := { p.entry with status := st }, hasTarget := true }
        pure (if p.numerus then a' else a'.resetBuffer)
  | "numerusform" =>
    match a.pending with
    | none => .error (.misplaced "numerusform" "message")
    | some p => .ok (if p.numerus then a.resetBuffer else a)
  | _ => .ok a

/-- The end of an element with local name `name`. A text element's end takes the buffer
away whether or not it can store it. -/
def endElement (a : Assembly) (name : String) : Assembly :=
  let taken := { a with buffer := none }
  match name with
  | "name" =>
    match a.context, a.buffer with
    | some c, some text => { taken with context := some { c with name := text } }
    | _, _ => taken
  | "source" =>
    match a.buffer with
    | some text => taken.withPending fun p => { p with entry := { p.entry with source := text } }
    | none => taken
  | "comment" =>
    match a.buffer with
    | some text =>
      taken.withPending fun p => { p with entry := { p.entry with disambiguation := nonEmpty text } }
    | none => taken
  | "extracomment" =>
    match a.buffer with
    | some text =>
      taken.withPending fun p => { p with entry := { p.entry with extraComment := nonEmpty text } }
    | none => taken
  | "translatorcomment" =>
    match a.buffer with
    | some text =>
      taken.withPending fun p => { p with entry := { p.entry with translatorComment := nonEmpty text } }
    | none => taken
  | "translation" =>
    match a.buffer with
    | some text => taken.withPending fun p => { p with entry := { p.entry with target := .plain text } }
    | none => taken
  | "numerusform" =>
    match a.buffer with
    | some text => taken.withPending fun p => { p with forms := p.forms ++ [text] }
    | none => taken
  | "message" =>
    match a.context, a.pending with
    | some c, some p => { a with context := some { c with entries := c.entries ++ [p.complete] }, pending := none }
    | _, _ => { a with pending := none }
  | "context" =>
    match a.document, a.context with
    | some d, some c => { a with document := some { d with contexts := d.contexts ++ [c] }, context := none }
    | _, _ => { a with context := none }
  | "TS" => { a with closed := true }
  | _ => a

/-- Character data, already unescaped. -/
def addText (a : Assembly) (s : String) : Assembly :=
  { a with buffer := a.buffer.map (· ++ s) }

/-- One markup event. -/
def step (a : Assembly) : Markup.Event → Except ReadError Assembly
  | .start t => a.startElement t
  | .empty t => do
    let a' ← a.startElement t
    pure (a'.endElement t.localName)
  | .close n => .ok (a.endElement (Markup.localName n))
  | .text raw =>
    match Markup.unescape raw with
    | .ok s => .ok (a.addText s)
    | .error e => .error (.markup (.escape e))
  | .cdata c => .ok (a.addText (String.ofList c))
  | .aside => .ok a

/-- All events of a trace, stopping at the first error. -/
def run : Markup.Trace → Assembly → Except ReadError Assembly
  | .done, a => .ok a
  | .fail e, _ => .error (.markup e)
  | .event ev rest, a => do
    let a' ← a.step ev
    run rest a'

/-- The document, once the input has ended. -/
def finish (a : Assembly) : Except ReadError Document :=
  if a.pending.isSome then .error (.unexpectedEnd "message")
  else if a.context.isSome then .error (.unexpectedEnd "context")
  else
    match a.document with
    | some d => if a.closed then .ok d else .error (.unexpectedEnd "TS")
    | none => .error .missingRoot

end Assembly

namespace Document

/-- Reads a document from the text of a catalog file. -/
def read (input : String) : Except ReadError Document := do
  let a ← Assembly.run (Markup.scan input) {}
  a.finish

end Document

end Phrasebook
