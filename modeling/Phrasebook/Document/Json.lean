import Phrasebook.Document.Basic
import Phrasebook.Json.Value

/-! # Documents as JSON

A document's JSON form has the fields `version`, `language`, `sourceLanguage` and `contexts`;
a context has `name` and `messages`; an entry has `source`, `disambiguation`, `translation`
(`{"plain": text}` or `{"plural": [forms]}`), `status`, `translatorComment`, `extraComment` and
`locations`. An absolute line is a number, an offset is its written form with sign.
-/

namespace Phrasebook

open Json

/-- The JSON form of a line. -/
def Line.toJson : Line → Value
  | .absolute n => .num n.toNat
  | l@(.relative _) => .str l.render

/-- The JSON form of a location. -/
def Location.toJson (l : Location) : Value :=
  .obj [("filename", .str l.file), ("line", (l.line.map Line.toJson).getD .null)]

/-- The JSON form of a target. -/
def Target.toJson : Target → Value
  | .plain t => .obj [("plain", .str t)]
  | .plural fs => .obj [("plural", Value.ofStrings fs)]

/-- The JSON form of an entry. -/
def Entry.toJson (e : Entry) : Value :=
  .obj [("source", .str e.source), ("disambiguation", .ofOption e.disambiguation),
    ("translation", e.target.toJson), ("status", .str e.status.name),
    ("translatorComment", .ofOption e.translatorComment),
    ("extraComment", .ofOption e.extraComment),
    ("locations", .arr (e.locations.map Location.toJson))]

/-- The JSON form of a context. -/
def Context.toJson (c : Context) : Value :=
  .obj [("name", .str c.name), ("messages", .arr (c.entries.map Entry.toJson))]

/-- The JSON form of a document. -/
def Document.toJson (d : Document) : Value :=
  .obj [("version", .str d.version), ("language", .ofOption d.language),
    ("sourceLanguage", .ofOption d.sourceLanguage),
    ("contexts", .arr (d.contexts.map Context.toJson))]

end Phrasebook
