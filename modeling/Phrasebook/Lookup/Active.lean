import Phrasebook.Catalog.Collection
import Phrasebook.Lookup.Translator

/-! # The active catalog

The active catalog is the translator an application uses now. It can be replaced by another
catalog, cleared (lookups then answer source texts), switched to the catalog of a language
from a collection, or reloaded; its lookup options stay through all of these. A translator
taken from it earlier is a value and is not changed by later swaps.
-/

namespace Phrasebook

/-- The translator in use. -/
structure Active where
  current : Translator := {}
  deriving Repr

namespace Active

/-- The translator in use now. -/
def translator (a : Active) : Translator :=
  a.current

/-- Uses another catalog; answers the one it replaces. -/
def replace (a : Active) (c : Catalog) : Option Catalog × Active :=
  (a.current.catalog, { current := { a.current with catalog := some c } })

/-- Stops using a catalog; answers the one it used. -/
def clear (a : Active) : Option Catalog × Active :=
  (a.current.catalog, { current := { a.current with catalog := none } })

/-- Changes the lookup options and keeps the catalog. -/
def setOptions (a : Active) (o : LookupOptions) : Active :=
  { current := { a.current with options := o } }

/-- Uses a freshly loaded catalog, or keeps the current one when loading failed. -/
def load (a : Active) (loaded : Except CatalogError Catalog) :
    Except CatalogError (Option Catalog × Active) :=
  loaded.map a.replace

/-- Uses the collection's catalog for a language; when there is none, keeps the current one and
answers `false`. -/
def switchTo (a : Active) (s : Collection) (language : String) : Bool × Active :=
  match s.get? language with
  | some c => (true, (a.replace c).2)
  | none => (false, a)

/-! ## Sessions

A session is a list of calls on one active catalog. A `load` is given the text of the catalog
file; it succeeds exactly when the text reads as a catalog. A shared catalog is a catalog here,
so replacing by a shared one is `replace` too.
-/

/-- One call on the active catalog. -/
inductive Call where
  /-- Use a catalog. -/
  | replace (c : Catalog)
  /-- Use no catalog. -/
  | clear
  /-- Change the lookup options. -/
  | setOptions (o : LookupOptions)
  /-- Use the catalog of a file, given its text. -/
  | load (text : String)
  /-- Use a collection's catalog for a language. -/
  | switchTo (s : Collection) (language : String)

/-- What a call answers. -/
inductive Reply where
  /-- The catalog used before (`replace`, `clear`). -/
  | previous (c : Option Catalog)
  /-- The catalog used before a load, or why the file could not be loaded. -/
  | loaded (r : Except CatalogError (Option Catalog))
  /-- Whether the collection had a catalog for the language. -/
  | switched (found : Bool)
  /-- Nothing (`setOptions`). -/
  | done

/-- One call: its answer and the active catalog after it. -/
def call (a : Active) : Call → Reply × Active
  | .replace c =>
    let (p, b) := a.replace c
    (.previous p, b)
  | .clear =>
    let (p, b) := a.clear
    (.previous p, b)
  | .setOptions o => (.done, a.setOptions o)
  | .load text =>
    match a.load (Catalog.ofText text) with
    | .ok (p, b) => (.loaded (.ok p), b)
    | .error e => (.loaded (.error e), a)
  | .switchTo s language =>
    let (found, b) := a.switchTo s language
    (.switched found, b)

/-- Calls one after another: their answers, in order, and the active catalog at the end. -/
def perform (a : Active) : List Call → List Reply × Active
  | [] => ([], a)
  | c :: cs =>
    let (r, b) := a.call c
    let (rs, z) := b.perform cs
    (r :: rs, z)

end Active

end Phrasebook
