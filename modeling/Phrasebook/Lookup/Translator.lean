import Phrasebook.Catalog.Basic
import Phrasebook.Template.Placeholder

/-! # Looking up target texts

A translator answers a source text with its target text from one catalog, or with the source
text itself when the catalog has no usable target; without a catalog it always answers the
source text. Either way the placeholders are then filled.

* An entry is found by its key; when that misses and a disambiguation was given, by the key
  without one.
* A finished entry is usable; an unfinished one only when unfinished entries are asked for; a
  vanished or obsolete one never.
* A plain lookup uses a non-empty plain target. A plural lookup needs the catalog's plural rule
  and a non-empty form at the index that the count selects.
-/

namespace Phrasebook

/-- How lookups treat entries. -/
structure LookupOptions where
  includeUnfinished : Bool := false
  deriving Repr, DecidableEq, BEq

/-- Lookups against one catalog, or against none. -/
structure Translator where
  catalog : Option Catalog := none
  options : LookupOptions := {}
  deriving Repr

namespace Translator

/-- The entry for a key, falling back to the key without disambiguation. -/
def find? (t : Translator) (ctx source : String) (dis : Option String) : Option Entry :=
  t.catalog.bind fun c =>
    match c.get? ctx source dis with
    | some e => some e
    | none => if dis.isSome then c.get? ctx source none else none

/-- Whether an entry's status lets it be used. -/
def usable (t : Translator) : Status → Bool
  | .finished => true
  | .unfinished => t.options.includeUnfinished
  | .vanished | .obsolete => false

/-- The plain target an entry offers. -/
def plainText? (t : Translator) (e : Entry) : Option String :=
  if t.usable e.status then
    match e.target with
    | .plain text => if text.isEmpty then none else some text
    | .plural _ => none
  else none

/-- The plural form an entry offers for a count. -/
def pluralText? (t : Translator) (e : Entry) (n : Int) : Option String :=
  if t.usable e.status then
    match t.catalog.bind (·.rule), e.target with
    | some r, .plural forms =>
      match forms[r.formIndex n]? with
      | some f => if f.isEmpty then none else some f
      | none => none
    | _, _ => none
  else none

/-- The target text of a source text, with arguments filled in. -/
def lookup (t : Translator) (ctx source : String) (dis : Option String) (args : List String) :
    String :=
  let text := ((t.find? ctx source dis).bind t.plainText?).getD source
  Template.substitute text none args

/-- The target text of a source text for a count, with count and arguments filled in. -/
def lookupPlural (t : Translator) (ctx source : String) (dis : Option String) (n : Int)
    (args : List String) : String :=
  let text := ((t.find? ctx source dis).bind fun e => t.pluralText? e n).getD source
  Template.substitute text (some n) args

end Translator

end Phrasebook
