import Phrasebook.Proofs.Check.Findings

/-! # Levels of the checks

Each kind of finding takes its level from one of the five settings of `CheckLevels`. Levels only
choose and label: the findings of a document at any levels are those at the default levels, where
every check runs, each dropped when its setting is off and otherwise moved to the setting's level,
in the same order (`check_eq_filterMap`). So changing the level of a setting that is on drops or
moves the findings of its kinds and leaves every other finding where it was; no finding is ever at
level off. A setting that is off has no findings left to move, so turning it on again can add
findings.
-/

namespace Phrasebook

@[simp] theorem Severity.isOn_off : Severity.off.isOn = false := rfl

/-- The five settings of the levels of the checks. -/
inductive CheckField where
  | unfinished
  | emptyTranslation
  | pluralForms
  | placeholders
  | duplicates
  deriving Repr, DecidableEq

namespace CheckLevels

/-- The level of one setting. -/
def get (c : CheckLevels) : CheckField → Severity
  | .unfinished => c.unfinished
  | .emptyTranslation => c.emptyTranslation
  | .pluralForms => c.pluralForms
  | .placeholders => c.placeholders
  | .duplicates => c.duplicates

/-- The levels with one setting changed. -/
def set (c : CheckLevels) : CheckField → Severity → CheckLevels
  | .unfinished, s => { c with unfinished := s }
  | .emptyTranslation, s => { c with emptyTranslation := s }
  | .pluralForms, s => { c with pluralForms := s }
  | .placeholders, s => { c with placeholders := s }
  | .duplicates, s => { c with duplicates := s }

theorem get_set (c : CheckLevels) (X Y : CheckField) (s : Severity) :
    (c.set X s).get Y = if Y = X then s else c.get Y := by
  cases X <;> cases Y <;> rfl

end CheckLevels

/-- The setting that gives a kind of finding its level. -/
def FindingKind.field : FindingKind → CheckField
  | .duplicateEntry => .duplicates
  | .unfinished => .unfinished
  | .emptyTarget => .emptyTranslation
  | .pluralFormCount => .pluralForms
  | .missingCountPlaceholder => .placeholders
  | .placeholderMismatch => .placeholders
  | .unknownPluralRule => .pluralForms

namespace Diagnostic

/-- A finding as the levels `c` report it: at the level of its kind's setting, and not at all
when that level is off. -/
def atLevels (c : CheckLevels) (x : Diagnostic) : Option Diagnostic :=
  if (c.get x.kind.field).isOn then some { x with severity := c.get x.kind.field } else none

/-- The findings once one setting's level is `s`: those of its kinds are dropped when `s` is off
and moved to `s` otherwise; the others stay as they are, and so does the order. -/
def relevel (X : CheckField) (s : Severity) (ds : List Diagnostic) : List Diagnostic :=
  if s = .off then ds.filter fun x => x.kind.field ≠ X
  else ds.map fun x => if x.kind.field = X then { x with severity := s } else x

end Diagnostic

/-! ### Every check at the default levels, relabelled -/

namespace Check

variable {c : CheckLevels} {rule : Option PluralRule} {ctx : String} {e : Entry}

theorem filterMap_about {l : Severity} (hl : l.isOn) (k : FindingKind) (m : String) :
    (about l k ctx e m).filterMap (Diagnostic.atLevels c) = about (c.get k.field) k ctx e m := by
  by_cases h : (c.get k.field).isOn <;> simp [about, Diagnostic.atLevels, hl, h]

theorem filterMap_ite_about {p : Prop} [Decidable p] {l : Severity} (hl : l.isOn) (k : FindingKind)
    (m : String) :
    (if p then about l k ctx e m else []).filterMap (Diagnostic.atLevels c) =
      if p then about (c.get k.field) k ctx e m else [] := by
  split
  · exact filterMap_about hl k m
  · rfl

theorem filterMap_placeholderFindings (text : String) :
    (placeholderFindings {} ctx e text).filterMap (Diagnostic.atLevels c) =
      placeholderFindings c ctx e text := by
  simp +decide only [placeholderFindings, List.filterMap_append, filterMap_ite_about,
    FindingKind.field, CheckLevels.get]

theorem filterMap_entryFindings :
    (entryFindings {} rule ctx e).filterMap (Diagnostic.atLevels c) = entryFindings c rule ctx e := by
  simp +decide only [entryFindings, List.filterMap_append, filterMap_ite_about, List.filterMap_flatMap,
    filterMap_placeholderFindings, FindingKind.field, CheckLevels.get]
  congr 2
  -- the count of plural forms is checked only for a plural target under a known rule
  split
  · simp +decide only [filterMap_ite_about, FindingKind.field, CheckLevels.get]
  · rfl

theorem filterMap_contextFindings (seen : List (String × Option String)) (es : List Entry) :
    (contextFindings {} rule ctx seen es).filterMap (Diagnostic.atLevels c) =
      contextFindings c rule ctx seen es := by
  induction es generalizing seen with
  | nil => rfl
  | cons e es ih =>
    simp only [contextFindings]
    split_ifs
    · rw [List.filterMap_append, filterMap_about rfl, ih]
      rfl
    · exact ih _
    · rw [List.filterMap_append, filterMap_entryFindings, ih]

/-- The document-level finding tests the level itself; at the default levels the test passes, and
`atLevels` drops the finding exactly where the test of `c` fails. -/
theorem filterMap_ruleFindings (d : Document) :
    (ruleFindings {} d rule).filterMap (Diagnostic.atLevels c) = ruleFindings c d rule := by
  unfold ruleFindings
  cases hp : d.contexts.any (fun x => x.entries.any fun e => e.target.isPlural) <;>
    cases hr : rule.isNone <;> cases hc : c.pluralForms.isOn <;>
    simp +decide [Diagnostic.atLevels, FindingKind.field, CheckLevels.get, hc]

end Check

namespace Diagnostic

variable {c : CheckLevels} {X : CheckField} {s : Severity}

theorem severity_of_atLevels {x y : Diagnostic} (h : atLevels c x = some y) :
    y.severity = c.get x.kind.field ∧ y.severity ≠ .off := by
  unfold atLevels at h
  split at h
  · cases h
    exact ⟨rfl, (Severity.isOn_iff _).1 ‹_›⟩
  · cases h

theorem atLevels_set_off (hX : (c.get X).isOn) (x : Diagnostic) :
    atLevels (c.set X .off) x = (atLevels c x).filter fun y => y.kind.field ≠ X := by
  by_cases hx : x.kind.field = X
  · simp [atLevels, CheckLevels.get_set, hx, hX, Option.filter]
  · by_cases hon : (c.get x.kind.field).isOn <;>
      simp [atLevels, CheckLevels.get_set, hx, hon, Option.filter]

theorem atLevels_set_on (hX : (c.get X).isOn) (hs : s ≠ .off) (x : Diagnostic) :
    atLevels (c.set X s) x =
      (atLevels c x).map fun y => if y.kind.field = X then { y with severity := s } else y := by
  have hs' := (Severity.isOn_iff s).2 hs
  by_cases hx : x.kind.field = X
  · simp [atLevels, CheckLevels.get_set, hx, hX, hs']
  · by_cases hon : (c.get x.kind.field).isOn <;> simp [atLevels, CheckLevels.get_set, hx, hon]

end Diagnostic

namespace Document

/-- Levels choose and label: the findings at any levels are those at the default levels, where
every check runs, each dropped when its setting is off and otherwise moved to the setting's
level, in the same order. -/
theorem check_eq_filterMap (d : Document) (c : CheckLevels) :
    d.check c = (d.check {}).filterMap (Diagnostic.atLevels c) := by
  simp only [check, List.filterMap_append, List.filterMap_flatMap, Check.filterMap_ruleFindings,
    Check.filterMap_contextFindings]

theorem severity_ne_off_of_mem_check {d : Document} {c : CheckLevels} {x : Diagnostic}
    (hx : x ∈ d.check c) : x.severity ≠ .off := by
  rw [check_eq_filterMap, List.mem_filterMap] at hx
  obtain ⟨y, -, hy⟩ := hx
  exact (Diagnostic.severity_of_atLevels hy).2

/-- Changing the level of a setting that is on changes only the findings of its kinds: they are
dropped when the new level is off and moved to it otherwise, and every other finding and the
order stay. No finding is ever at level off. -/
theorem check_set_eq_relevel (d : Document) (c : CheckLevels) (X : CheckField) (s : Severity)
    (hX : c.get X ≠ .off) :
    d.check (c.set X s) = Diagnostic.relevel X s (d.check c) ∧
      ∀ c' : CheckLevels, ∀ x ∈ d.check c', x.severity ≠ .off := by
  have hon := (Severity.isOn_iff _).2 hX
  refine ⟨?_, fun c' x hx => severity_ne_off_of_mem_check hx⟩
  rw [check_eq_filterMap d (c.set X s), check_eq_filterMap d c, Diagnostic.relevel]
  split
  · rename_i hs
    subst hs
    rw [List.filter_filterMap]
    exact List.filterMap_congr fun x _ => by simp [Diagnostic.atLevels_set_off hon x]
  · rename_i hs
    rw [List.map_filterMap]
    exact List.filterMap_congr fun x _ => Diagnostic.atLevels_set_on hon hs x

/-- Raising the unfinished check of the default levels to error. -/
theorem check_set_eq_relevel_unfinished :
    ({} : CheckLevels).get .unfinished ≠ .off ∧
    Document.check
        { contexts := [{ name := "Menu",
                         entries := [{ source := "Open", target := .plain "Ouvrir",
                                       status := .unfinished }] }] }
        (({} : CheckLevels).set .unfinished .error) =
      Diagnostic.relevel .unfinished .error
        (Document.check
          { contexts := [{ name := "Menu",
                           entries := [{ source := "Open", target := .plain "Ouvrir",
                                         status := .unfinished }] }] } {}) := by
  have hon : ({} : CheckLevels).get .unfinished ≠ .off := by decide
  exact ⟨hon, (check_set_eq_relevel _ {} .unfinished .error hon).1⟩

/-- With the unfinished check off there is nothing to move: turning it on at level info reports the
unfinished entry, while the findings with the check off, relabelled, are empty. -/
theorem check_set_from_off_reports_more :
    Document.check
        { contexts := [{ name := "Menu",
                         entries := [{ source := "Open", target := .plain "Ouvrir",
                                       status := .unfinished }] }] }
        (({ unfinished := .off } : CheckLevels).set .unfinished .info) ≠
      Diagnostic.relevel .unfinished .info
        (Document.check
          { contexts := [{ name := "Menu",
                           entries := [{ source := "Open", target := .plain "Ouvrir",
                                         status := .unfinished }] }] } { unfinished := .off }) := by
  decide +kernel

end Document

end Phrasebook
