import Phrasebook.Catalog.Basic

/-! # Catalogs of several languages

A collection holds one catalog per language, under the language's normalized code, in the
order of the codes. Looking a language up tries, in order, its normalized code, its primary
subtag as a code, and the first code whose primary subtag is the same; so `ru_RU` finds `ru`,
and `pt` finds `pt_br` when there is no `pt`.
-/

namespace Phrasebook

/-- Catalogs by normalized language code, ordered by code, one per code. -/
structure Collection where
  entries : List (String × Catalog) := []
  deriving Repr

namespace Collection

/-- Puts a catalog under a code into a list ordered by code, replacing the one there. -/
def place (key : String) (c : Catalog) : List (String × Catalog) → List (String × Catalog)
  | [] => [(key, c)]
  | (k, d) :: rest =>
    if key < k then (key, c) :: (k, d) :: rest
    else if key = k then (key, c) :: rest
    else (k, d) :: place key c rest

/-- Adds a catalog for a language; answers the catalog it replaces, if any. -/
def insert (s : Collection) (language : String) (c : Catalog) : Option Catalog × Collection :=
  let key := Language.normalize language
  ((s.entries.lookup key), { entries := place key c s.entries })

/-- The catalog for a language, with fallback to its primary subtag. -/
def get? (s : Collection) (language : String) : Option Catalog :=
  let key := Language.normalize language
  let pri := Language.primary key
  match s.entries.lookup key with
  | some c => some c
  | none =>
    match s.entries.lookup pri with
    | some c => some c
    | none => (s.entries.find? fun e => Language.primary e.1 = pri).map Prod.snd

/-- The codes, in order. -/
def languages (s : Collection) : List String :=
  s.entries.map Prod.fst

/-- The number of catalogs. -/
def size (s : Collection) : Nat :=
  s.entries.length

end Collection

end Phrasebook
