import Phrasebook.Check.Diagnostic
import Phrasebook.Document.Basic
import Phrasebook.Plural.Rule
import Phrasebook.Template.Placeholder

/-! # Checking a document

The checks of a document, in the order their findings are listed:

* a document with entries with plural forms but no plural rule for its language;
* per context and entry: an entry whose source text and disambiguation came earlier in the same
  context (no further checks for it); entries gone from the program are not checked; an
  unfinished entry; a finished entry with an empty text; an entry with plural forms whose
  number of forms is not the rule's (when it has a form or is finished); and per non-empty text
  of the target, placeholders other than the source's, then a plural form without the count
  placeholder `%n` when the source has one.

A kind of check whose level is off finds nothing.
-/

namespace Phrasebook

namespace Check

/-- The finding about one entry, unless its level is off. -/
def about (level : Severity) (kind : FindingKind) (ctx : String) (e : Entry) (message : String) :
    List Diagnostic :=
  if level.isOn then
    [{ severity := level, kind, context := some ctx, sourceText := some e.source,
       location := e.locations.head?, message }]
  else []

/-- The numbers of a sorted list that are not in another. -/
def missingFrom (xs ys : List Nat) : List Nat :=
  xs.filter fun x => !ys.contains x

/-- The sentence for a text whose placeholders are not the source's. -/
def mismatchMessage (expected found : List Nat) (text : String) : String :=
  let list := fun (ns : List Nat) => ", ".intercalate (ns.map fun n => "%" ++ toString n)
  let missing := missingFrom expected found
  let extra := missingFrom found expected
  let parts := (if missing.isEmpty then [] else ["missing " ++ list missing])
    ++ (if extra.isEmpty then [] else ["unexpected " ++ list extra])
  "Placeholders differ from the source text in " ++ Text.quote text ++ ": " ++ "; ".intercalate parts

/-- The placeholder findings for one text of an entry's target. -/
def placeholderFindings (levels : CheckLevels) (ctx : String) (e : Entry) (text : String) :
    List Diagnostic :=
  let expected := Template.numbers e.source
  let found := Template.numbers text
  (if found ≠ expected then
    about levels.placeholders .placeholderMismatch ctx e (mismatchMessage expected found text)
  else [])
  ++ (if e.target.isPlural && Template.hasCount e.source && !Template.hasCount text then
    about levels.placeholders .missingCountPlaceholder ctx e
      ("Plural form " ++ Text.quote text ++ " does not contain %n")
  else [])

/-- The findings for an entry that is in use. -/
def entryFindings (levels : CheckLevels) (rule : Option PluralRule) (ctx : String) (e : Entry) :
    List Diagnostic :=
  let texts := e.target.texts
  let translated := texts.any fun t => !t.isEmpty
  (if e.status = .unfinished then
    about levels.unfinished .unfinished ctx e "Translation is unfinished; the source text is shown"
  else [])
  ++ (if e.status = .finished && texts.any (·.isEmpty) then
    about levels.emptyTranslation .emptyTarget ctx e
      (if e.target.isPlural then "A plural form is empty; the source text is shown for it"
       else "Translation is empty; the source text is shown")
  else [])
  ++ (match e.target, rule with
    | .plural forms, some r =>
      if (translated || e.status = .finished) && forms.length ≠ r.formCount then
        about levels.pluralForms .pluralFormCount ctx e
          ("Expected " ++ toString r.formCount ++ " plural forms, found " ++ toString forms.length)
      else []
    | _, _ => [])
  ++ ((texts.filter fun t => !t.isEmpty).flatMap (placeholderFindings levels ctx e))

/-- The findings for the entries of one context; `seen` holds the keys met before. -/
def contextFindings (levels : CheckLevels) (rule : Option PluralRule) (ctx : String) :
    List (String × Option String) → List Entry → List Diagnostic
  | _, [] => []
  | seen, e :: es =>
    let key := (e.source, e.disambiguation)
    if seen.contains key then
      about levels.duplicates .duplicateEntry ctx e
        "Duplicate entry: the same source text appears earlier in this context"
      ++ contextFindings levels rule ctx seen es
    else if e.status.isGone then contextFindings levels rule ctx (key :: seen) es
    else entryFindings levels rule ctx e ++ contextFindings levels rule ctx (key :: seen) es

/-- The finding about a document whose plural forms cannot be chosen. -/
def ruleFindings (levels : CheckLevels) (d : Document) (rule : Option PluralRule) :
    List Diagnostic :=
  if rule.isNone && levels.pluralForms.isOn &&
      d.contexts.any (fun c => c.entries.any fun e => e.target.isPlural) then
    [{ severity := levels.pluralForms, kind := .unknownPluralRule,
       message := match d.language with
        | none => "Catalog has no language; plural forms cannot be selected"
        | some l => "No plural rule for language '" ++ l ++ "'" }]
  else []

end Check

namespace Document

/-- All findings of the checks on a document, in order. -/
def check (d : Document) (levels : CheckLevels) : List Diagnostic :=
  let rule := d.language.bind PluralRule.ofLanguage
  Check.ruleFindings levels d rule
    ++ d.contexts.flatMap fun c => Check.contextFindings levels rule c.name [] c.entries

end Document

/-- Whether any finding is an error. -/
def hasErrors (ds : List Diagnostic) : Bool :=
  ds.any Diagnostic.isError

end Phrasebook
