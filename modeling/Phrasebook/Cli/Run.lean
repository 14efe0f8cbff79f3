import Phrasebook.Cli.Args
import Phrasebook.Catalog.File
import Phrasebook.Workspace.Index
import Phrasebook.Check.Validate
import Phrasebook.Report.Completeness
import Phrasebook.Lookup.Active
import Phrasebook.Json.Print

/-! # Running a command

* `check` indexes a workspace and checks each document with the levels of its settings. It
  writes the failures, then each document's findings, then a count of catalogs, errors and
  warnings; or all of it as JSON. It fails when a file failed or a finding is an error.
* `report` writes the completeness report of each document of a workspace, or all of them as
  JSON.
* `tr` looks a text up: in a catalog file, or in a workspace, in the catalog of the language
  chosen from the one asked for, the configured one and the one of the system (the source text
  itself when none is found). The count and the disambiguation choose the kind of lookup.
* `normalize` reads a catalog file and writes it back in the usual layout, to a file or out.
-/

namespace Phrasebook.Cli

/-- How a command ended. -/
inductive Outcome where
  | success
  | failure
  deriving Repr, DecidableEq

/-- Why a command could not run. -/
inductive RunError where
  | settings (e : SettingsError)
  | index (e : IndexError)
  | catalog (e : CatalogError)
  | document (e : ReadError)
  deriving Repr

namespace RunError

/-- The sentence for the error. -/
def message : RunError → String
  | .settings e => e.message
  | .index e => e.message
  | .catalog e => e.message
  | .document e => e.message

end RunError

/-- What a command leaves: how it ended, what it wrote out, and the files afterwards. -/
structure Ran where
  outcome : Outcome
  output : String
  files : Files.Tree

/-- The settings and index of a workspace. -/
def loadWorkspace (t : Files.Tree) (root : String) : Except RunError (Settings × Indexer) := do
  let s ← match Settings.load t root with
    | .ok s => pure s
    | .error e => throw (.settings e)
  match indexWorkspace t root s with
  | .ok (_, ix) => pure (s, ix)
  | .error e => throw (.index e)

open Json in
/-- The JSON of a failure. -/
def failureJson (f : LoadFailure) : Value :=
  .obj [("path", .str f.path), ("message", .str f.message)]

/-- Checks the documents of a workspace. -/
def check (t : Files.Tree) (root : String) (json : Bool) : Except RunError Ran := do
  let (s, ix) ← loadWorkspace t root
  let files := ix.documents.map fun (p, d) => (p, d.check s.checks)
  let failed := !ix.failures.isEmpty || files.any fun (_, ds) => hasErrors ds
  let output :=
    if json then
      (Json.Value.obj [
        ("files", .arr (files.map fun (p, ds) =>
          .obj [("path", .str p), ("diagnostics", .arr (ds.map Diagnostic.toJson))])),
        ("failures", .arr (ix.failures.map failureJson))]).pretty ++ "\n"
    else
      let all := files.flatMap fun (_, ds) => ds
      let errors := ix.failures.length + (all.filter fun d => d.severity == .error).length
      let warnings := (all.filter fun d => d.severity == .warning).length
      String.join (ix.failures.map fun f => f.path ++ ": error: " ++ f.message ++ "\n")
        ++ String.join (files.flatMap fun (p, ds) => ds.map fun d => p ++ ": " ++ d.render ++ "\n")
        ++ "Checked " ++ toString (files.length + ix.failures.length) ++ " catalog(s): "
        ++ toString errors ++ " error(s), " ++ toString warnings ++ " warning(s)\n"
  pure ⟨if failed then .failure else .success, output, t⟩

/-- Reports how complete the documents of a workspace are. -/
def report (t : Files.Tree) (root : String) (json : Bool) : Except RunError Ran := do
  let (_, ix) ← loadWorkspace t root
  let reports := ix.documents.map fun (p, d) => (p, d.completeness)
  let output :=
    if json then
      (Json.Value.arr (reports.map fun (p, r) => .obj [("path", .str p), ("report", r.toJson)])).pretty
        ++ "\n"
    else String.join (reports.map fun (p, r) => p ++ "\n" ++ r.render)
  pure ⟨.success, output, t⟩

/-- Looks a text up. -/
def lookup (t : Files.Tree) (locale : Option String) (q : LookupRequest) : Except RunError Ran := do
  let (active, options) ← if t.isDirectory q.target then do
      let (s, ix) ← loadWorkspace t q.target
      let catalogs := ix.catalogs
      let a : Active := {}
      let a := match Language.resolve [q.language, s.defaultLanguage, Language.localeCandidate locale]
          s.sourceLanguage catalogs with
        | some l => (a.switchTo catalogs l).2
        | none => a.clear.2
      pure (a, s.lookup)
    else
      match Catalog.readFile t q.target with
      | .ok c => pure (((({} : Active).replace c).2), ({} : LookupOptions))
      | .error e => throw (.catalog e)
  let active := active.setOptions { includeUnfinished := q.includeUnfinished || options.includeUnfinished }
  let tr := active.translator
  let text := match q.count with
    | some n => tr.lookupPlural q.context q.source q.disambiguation n q.args
    | none => tr.lookup q.context q.source q.disambiguation q.args
  pure ⟨.success, text ++ "\n", t⟩

/-- Reads a catalog file and writes it back. -/
def normalize (t : Files.Tree) (file : String) (output : Option String) : Except RunError Ran := do
  let d ← match Document.readFile t file with
    | .ok d => pure d
    | .error e => throw (.document e)
  match output with
  | some path =>
    match Document.writeFile t path d with
    | .ok t' => pure ⟨.success, "", t'⟩
    | .error e => throw (.document e)
  | none => pure ⟨.success, d.render, t⟩

/-- Runs a command over files; `locale` is the language of the system, if any. -/
def run (t : Files.Tree) (locale : Option String) : Command → Except RunError Ran
  | .help => .ok ⟨.success, usage, t⟩
  | .check root json => check t root json
  | .report root json => report t root json
  | .lookup q => lookup t locale q
  | .normalize file output => normalize t file output

end Phrasebook.Cli
