import Phrasebook.Document.Basic
import Phrasebook.Json.Value

/-! # How complete a document is

A tally counts the entries of a document, or of one of its contexts, by status: finished,
unfinished, and gone from the program (vanished or obsolete). Its total is the sum of the three,
and its percentage is the share of finished entries among those in use, rounded down, or 100
when none is in use. A report gives the tally of the whole document and of each context.
-/

namespace Phrasebook

/-- Entries counted by status. -/
structure Tally where
  finished : Nat := 0
  unfinished : Nat := 0
  vanished : Nat := 0
  deriving Repr, DecidableEq

namespace Tally

/-- All entries counted. -/
def total (t : Tally) : Nat :=
  t.finished + t.unfinished + t.vanished

/-- The entries in use: finished or not. -/
def active (t : Tally) : Nat :=
  t.finished + t.unfinished

/-- The share of finished entries among those in use, in whole percent rounded down. -/
def percent (t : Tally) : Nat :=
  if t.active = 0 then 100 else t.finished * 100 / t.active

/-- Whether no entry is unfinished. -/
def isComplete (t : Tally) : Bool :=
  t.unfinished == 0

instance : Add Tally where
  add a b := ⟨a.finished + b.finished, a.unfinished + b.unfinished, a.vanished + b.vanished⟩

/-- The tally of one entry. -/
def ofEntry (e : Entry) : Tally :=
  match e.status with
  | .finished => { finished := 1 }
  | .unfinished => { unfinished := 1 }
  | .vanished => { vanished := 1 }
  | .obsolete => { vanished := 1 }

/-- The tally of entries. -/
def ofEntries (es : List Entry) : Tally :=
  es.foldr (fun e t => ofEntry e + t) {}

open Json in
/-- The JSON of a tally. -/
def toJson (t : Tally) : Value :=
  .obj [("total", .num t.total), ("finished", .num t.finished), ("unfinished", .num t.unfinished),
    ("vanished", .num t.vanished), ("percentFinished", .num t.percent)]

end Tally

/-- The tally of one context. -/
structure ContextTally where
  name : String
  tally : Tally
  deriving Repr, DecidableEq

/-- How complete a document is. -/
structure Completeness where
  language : Option String
  tally : Tally
  contexts : List ContextTally
  deriving Repr, DecidableEq

namespace Document

/-- The completeness report of a document. -/
def completeness (d : Document) : Completeness :=
  { language := d.language
    tally := Tally.ofEntries (d.contexts.flatMap (·.entries))
    contexts := d.contexts.map fun c => ⟨c.name, Tally.ofEntries c.entries⟩ }

end Document

namespace Completeness

/-- Whether no entry is unfinished. -/
def isComplete (r : Completeness) : Bool :=
  r.tally.isComplete

open Json in
/-- The JSON of a report. -/
def toJson (r : Completeness) : Value :=
  .obj [("language", .ofOption r.language), ("counts", r.tally.toJson),
    ("contexts", .arr (r.contexts.map fun c => .obj [("name", .str c.name), ("counts", c.tally.toJson)]))]

/-- The text of a report: a line for the document, then a line for each context with
unfinished entries. -/
def render (r : Completeness) : String :=
  let t := r.tally
  (r.language.getD "(unknown)") ++ ": " ++ toString t.finished ++ "/" ++ toString t.active
    ++ " finished (" ++ toString t.percent ++ "%), " ++ toString t.unfinished ++ " unfinished, "
    ++ toString t.vanished ++ " vanished\n"
  ++ String.join ((r.contexts.filter fun c => !c.tally.isComplete).map fun c =>
    "  " ++ c.name ++ ": " ++ toString c.tally.finished ++ "/" ++ toString c.tally.active
      ++ " (" ++ toString c.tally.percent ++ "%)\n")

end Completeness

end Phrasebook
