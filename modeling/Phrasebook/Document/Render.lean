import Phrasebook.Document.Basic
import Phrasebook.Markup.Layout

/-! # Writing a document as markup

A document is written as a declaration, a document type, and the `TS` element with its
attributes `version`, `language` and `sourcelanguage` (each only when present). An entry with
plural forms carries `numerus="yes"`; its locations come first, then `source`, then `comment`,
`extracomment` and `translatorcomment` when present, then `translation` with a `type` unless
the entry is finished. The text ends with a line break.
-/

namespace Phrasebook

open Markup in
/-- An element that holds one text. -/
def textElement (name text : String) : List Piece :=
  [.start name [], .text text, .close name]

open Markup in
/-- The element of one location. -/
def Location.piece (l : Location) : Piece :=
  .empty "location" ([("filename", l.file)] ++ (l.line.map fun n => ("line", n.render)).toList)

open Markup in
/-- The pieces of one entry. -/
def Entry.pieces (e : Entry) : List Piece :=
  let opening := Piece.start "message" (if e.target.isPlural then [("numerus", "yes")] else [])
  let optional (name : String) (text : Option String) : List Piece :=
    match text with
    | some t => textElement name t
    | none => []
  let typeAttr := (e.status.typeValue.map fun k => ("type", k)).toList
  let target : List Piece :=
    match e.target with
    | .plain t => [.start "translation" typeAttr, .text t, .close "translation"]
    | .plural fs =>
      [.start "translation" typeAttr] ++ fs.flatMap (textElement "numerusform") ++ [.close "translation"]
  [opening] ++ e.locations.map Location.piece ++ textElement "source" e.source
    ++ optional "comment" e.disambiguation ++ optional "extracomment" e.extraComment
    ++ optional "translatorcomment" e.translatorComment ++ target ++ [.close "message"]

open Markup in
/-- The pieces of one context. -/
def Context.pieces (c : Context) : List Piece :=
  [.start "context" []] ++ textElement "name" c.name ++ c.entries.flatMap Entry.pieces
    ++ [.close "context"]

namespace Document

open Markup in
/-- The attributes of the `TS` element. -/
def rootAttributes (d : Document) : List (String × String) :=
  [("version", d.version)] ++ (d.language.map fun l => ("language", l)).toList
    ++ (d.sourceLanguage.map fun l => ("sourcelanguage", l)).toList

open Markup in
/-- The text of a catalog file that holds the document. -/
def render (d : Document) : String :=
  layout ([.declaration "xml version=\"1.0\" encoding=\"utf-8\"", .doctype "TS",
    .start "TS" d.rootAttributes] ++ d.contexts.flatMap Context.pieces ++ [.close "TS"]) ++ "\n"

end Document

end Phrasebook
