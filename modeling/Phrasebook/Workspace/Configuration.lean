import Phrasebook.Workspace.Index

/-! # The settings in force

A program keeps the settings it works with, and the root of the workspace they were read from.
It starts with the default settings and no workspace. Loading takes the settings of a workspace
(those of its settings file, or the defaults when it has none) or, when no workspace is given,
the defaults; updating takes settings given whole, as from the command line. Settings are
checked before they are taken, and a call that fails, in reading, in parsing or in the check,
changes nothing.
-/

namespace Phrasebook

/-- The settings in force, and the root of the workspace they were read from. -/
structure Configuration where
  settings : Settings := {}
  root : Option String := none
  deriving Repr

namespace Configuration

/-- The checked settings of a workspace, or the checked defaults when no workspace is given. -/
def settingsAt (t : Files.Tree) : Option String → Except SettingsError Settings
  | some root => Settings.load t root
  | none => ({} : Settings).checked

/-- Takes the settings of a workspace, and its root; on an error nothing changes. -/
def load (c : Configuration) (t : Files.Tree) (root : Option String) :
    Except SettingsError Unit × Configuration :=
  match settingsAt t root with
  | .ok s => (.ok (), { settings := s, root := root })
  | .error e => (.error e, c)

/-- Takes settings given whole, keeping the root; on an error nothing changes. -/
def update (c : Configuration) (s : Settings) : Except SettingsError Unit × Configuration :=
  match s.checked with
  | .ok s => (.ok (), { c with settings := s })
  | .error e => (.error e, c)

/-- One call on the configuration: loading the settings of a workspace, given by its tree as it
is at the time of the call and by its root if any, or updating the settings. -/
inductive Call where
  | load (t : Files.Tree) (root : Option String)
  | update (s : Settings)

/-- The answer to one call, and the configuration after it. -/
def call (c : Configuration) : Call → Except SettingsError Unit × Configuration
  | .load t root => c.load t root
  | .update s => c.update s

/-- The configuration after calls one after another. -/
def perform (c : Configuration) (cs : List Call) : Configuration :=
  cs.foldl (fun c k => (c.call k).2) c

end Configuration

end Phrasebook
