import Phrasebook.Document.Basic
import Phrasebook.Document.Assembly
import Phrasebook.Plural.Rule
import Phrasebook.Text.Quoted

/-! # Catalogs

A catalog is a document that has been checked for use at run time: within the contexts of one
name, no two entries share both source text and disambiguation (an absent disambiguation and an
empty one are different). Contexts of the same name count as one, even when they are separate
elements. A catalog knows the plural rule of its language.

A catalog keeps an index: by context name, then by source text, the slots of the entries, each
slot holding the entry's disambiguation and its position in the document. The index is built by
walking the contexts and their entries in order; an entry whose source text and disambiguation
already have a slot under its context name stops the walk. An entry is found by context name,
source text and disambiguation, whatever its status, through the index.
-/

namespace Phrasebook

/-- Why a catalog cannot be made. -/
inductive CatalogError where
  /-- A second entry with the same key under the same context name. -/
  | duplicate (context source : String) (disambiguation : Option String)
  /-- The catalog file could not be read. -/
  | read (e : ReadError)
  deriving Repr, DecidableEq

namespace CatalogError

/-- The sentence that names the error. -/
def message : CatalogError → String
  | .duplicate ctx src dis =>
    "Duplicate entry in context '" ++ ctx ++ "': " ++ Text.quote src
      ++ ((dis.map fun d => " (" ++ d ++ ")").getD "")
  | .read e => e.message

end CatalogError

/-- The key of an entry: context name, source text and disambiguation. -/
abbrev EntryKey := String × String × Option String

/-- The key of an entry under a context name. -/
def Entry.key (ctx : String) (e : Entry) : EntryKey :=
  (ctx, e.source, e.disambiguation)

/-- The keys of a document's entries, in order. -/
def Document.keys (d : Document) : List EntryKey :=
  d.contexts.flatMap fun c => c.entries.map (Entry.key c.name)

/-- Where an entry stands: its disambiguation, the position of its context among the document's
contexts, and its own position in that context. -/
structure Slot where
  disambiguation : Option String
  context : Nat
  entry : Nat
  deriving Repr, DecidableEq

/-- Sets the value under a key of a table of pairs, in the place of the key's pair, or in a new
pair at the end when the key has none. -/
def putKey {α : Type} (k : String) (v : α) : List (String × α) → List (String × α)
  | [] => [(k, v)]
  | (k', v') :: rest => if k' = k then (k, v) :: rest else (k', v') :: putKey k v rest

/-- The index of a catalog: by context name, then by source text, the slots of the entries. -/
abbrev Index := List (String × List (String × List Slot))

/-- Adds the entries of a context, at position `ci` and from entry position `mi` on, to the slots
by source text of its name; stops at the first entry whose source text and disambiguation have a
slot already. -/
def indexEntries (name : String) (ci : Nat) :
    Nat → List (String × List Slot) → List Entry → Except CatalogError (List (String × List Slot))
  | _, bySource, [] => .ok bySource
  | mi, bySource, e :: rest =>
    let slots := (bySource.lookup e.source).getD []
    if slots.any (·.disambiguation == e.disambiguation) then
      .error (.duplicate name e.source e.disambiguation)
    else
      indexEntries name ci (mi + 1)
        (putKey e.source (slots ++ [⟨e.disambiguation, ci, mi⟩]) bySource) rest

/-- Adds contexts, from position `ci` on, to an index; contexts of one name share their slots. -/
def indexContexts : Nat → Index → List Context → Except CatalogError Index
  | _, index, [] => .ok index
  | ci, index, c :: rest => do
    let bySource ← indexEntries c.name ci 0 ((index.lookup c.name).getD []) c.entries
    indexContexts (ci + 1) (putKey c.name bySource index) rest

/-- A document checked for use at run time, with its index. -/
structure Catalog where
  document : Document
  rule : Option PluralRule
  index : Index
  deriving Repr, DecidableEq

namespace Catalog

/-- Indexes a document and makes it a catalog. -/
def ofDocument (d : Document) : Except CatalogError Catalog := do
  let index ← indexContexts 0 [] d.contexts
  pure { document := d, rule := d.language.bind PluralRule.ofLanguage, index := index }

/-- Reads a catalog file's text and makes it a catalog. -/
def ofText (text : String) : Except CatalogError Catalog :=
  match Document.read text with
  | .ok d => ofDocument d
  | .error e => .error (.read e)

/-- A catalog without entries for a language. -/
def empty (language : String) : Catalog :=
  { document := { language := some language }, rule := PluralRule.ofLanguage language, index := [] }

/-- The catalog's language. -/
def language (c : Catalog) : Option String :=
  c.document.language

/-- The number of entries, gone ones included. -/
def size (c : Catalog) : Nat :=
  c.document.contexts.foldl (fun n x => n + x.entries.length) 0

/-- The entry with a key, whatever its status: the first slot under the context name and source
text with the disambiguation, read at its position in the document. -/
def get? (c : Catalog) (ctx source : String) (dis : Option String) : Option Entry := do
  let bySource ← c.index.lookup ctx
  let slots ← bySource.lookup source
  let slot ← slots.find? (·.disambiguation == dis)
  let x ← c.document.contexts[slot.context]?
  x.entries[slot.entry]?

end Catalog

end Phrasebook
