import Phrasebook.Workspace.Index

/-! # Reading the catalog files of a workspace at once

The files of a workspace are read by one task each, and at most a fixed number of tasks hold a
permit at once. A task waits for a permit, reads its file, and records what it read in two
updates, each under a lock of its own: a document first takes the path out of the failures and
then goes into the documents; a failure first takes the path's document out and then joins the
failures. The permit goes back after the second update. Once every task is done, the files that
gave a document are counted.

A schedule names, one step after another, the task that moves; a schedule that names a task
that cannot move (no permit free, or nothing left to do) is refused. Every interleaving of the
tasks' steps is some schedule. Reading the files one after another, each recorded before the
next is read, is what indexing a workspace computes.
-/

namespace Phrasebook

namespace Indexer

/-- The first of the two locked updates that record what a file gave. -/
def clearFor (ix : Indexer) (path : String) : Except IndexError Document → Indexer
  | .ok _ => { ix with failures := ix.failures.filter fun f => !Files.samePath f.path path }
  | .error _ => { ix with documents := ix.documents.filter fun x => !Files.samePath x.1 path }

/-- The second of the two locked updates that record what a file gave. -/
def keepFor (ix : Indexer) (path : String) : Except IndexError Document → Indexer
  | .ok d => { ix with documents := placeDocument path d ix.documents }
  | .error e => { ix with failures := ix.failures ++ [⟨path, e.message⟩] }

end Indexer

/-- Where the task of one file is. -/
inductive TaskStage where
  /-- Waiting for a permit. -/
  | waiting
  /-- Holding a permit, reading the file. -/
  | reading
  /-- The file is read; both updates are to come. -/
  | read (r : Except IndexError Document)
  /-- The first update is made. -/
  | cleared (r : Except IndexError Document)
  /-- Both updates are made and the permit is back. -/
  | done (r : Except IndexError Document)

namespace TaskStage

/-- Whether the task holds a permit. -/
def holdsPermit : TaskStage → Bool
  | .reading | .read _ | .cleared _ => true
  | .waiting | .done _ => false

/-- What the task read, once it is done. -/
def outcome? : TaskStage → Option (Except IndexError Document)
  | .done r => some r
  | _ => none

/-- Whether the task is done and its file gave a document. -/
def loadedFile : TaskStage → Bool
  | .done (.ok _) => true
  | _ => false

end TaskStage

/-- The files to read, in the order of their paths, what each of them gives, and how many may
be read at once. -/
structure LoadJob where
  files : List String
  load : String → Except IndexError Document
  permits : Nat

/-- The indexer, and each file's path with the stage of its task, in the order of the files. -/
structure Loading where
  indexer : Indexer
  tasks : List (String × TaskStage)

namespace Loading

/-- The number of permits held. -/
def held (s : Loading) : Nat := s.tasks.countP fun t => t.2.holdsPermit

/-- Whether every task is done. -/
def finished (s : Loading) : Bool := s.tasks.all fun t => t.2.outcome?.isSome

/-- The number of files read into documents. -/
def loaded (s : Loading) : Nat := s.tasks.countP fun t => t.2.loadedFile

end Loading

namespace LoadJob

/-- Before any task has moved. -/
def start (job : LoadJob) : Loading :=
  { indexer := {}, tasks := job.files.map (·, .waiting) }

/-- Task `i` moves one step, if it can: it takes a permit if one is free, reads its file, or
makes the next of its two updates. -/
def step (job : LoadJob) (s : Loading) (i : Nat) : Option Loading :=
  match s.tasks[i]? with
  | some (p, .waiting) =>
    if s.held < job.permits then some { s with tasks := s.tasks.set i (p, .reading) } else none
  | some (p, .reading) => some { s with tasks := s.tasks.set i (p, .read (job.load p)) }
  | some (p, .read r) =>
    some { indexer := s.indexer.clearFor p r, tasks := s.tasks.set i (p, .cleared r) }
  | some (p, .cleared r) =>
    some { indexer := s.indexer.keepFor p r, tasks := s.tasks.set i (p, .done r) }
  | some (_, .done _) | none => none

/-- Runs a schedule: the tasks it names move one step each, in turn. -/
def run (job : LoadJob) : List Nat → Loading → Option Loading
  | [], s => some s
  | i :: rest, s => (job.step s i).bind (job.run rest)

/-- The schedule that reads the files one after another: each task takes its permit, reads its
file and makes both updates before the next task starts. -/
def oneByOne (n : Nat) : List Nat := (List.range n).flatMap fun i => [i, i, i, i]

/-- What the files give, in their order. -/
def outcomes (job : LoadJob) : List (String × Except IndexError Document) :=
  job.files.map fun p => (p, job.load p)

/-- The files read one after another, each recorded before the next is read: the number of
files read into documents, and the indexer. -/
def sequential (job : LoadJob) : Nat × Indexer :=
  ((job.outcomes.filter fun (_, r) => r.toBool).length,
    job.outcomes.foldl (fun ix (p, r) => ix.record p r) {})

end LoadJob

end Phrasebook
