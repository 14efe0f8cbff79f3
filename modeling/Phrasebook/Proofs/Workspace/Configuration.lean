import Mathlib
import Phrasebook.Workspace.Configuration
import Phrasebook.Proofs.Document.Canonical

/-! # The settings in force stay checked

What the check of settings accepts, field by field (`Settings.problems_eq_nil_iff`), and what
that buys: patterns that all read give a file matcher, so indexing with checked settings fails
for no pattern. The default settings pass the check, and every call on a configuration either
fails and changes nothing or puts checked settings in force; so after any calls the settings in
force are checked (`Configuration.perform_keeps_settings_checked`).

The check does not bound the number of readers from above: settings that ask for more readers
than can be counted pass it, and indexing with them fails
(`Configuration.update_passes_too_many_readers`).
-/

namespace Phrasebook

/-- The patterns of a field have no problem exactly when every one reads as a glob pattern. -/
theorem patternProblems_eq_nil_iff (field : String) (ps : List String) :
    patternProblems field ps = [] ↔ ∀ p ∈ ps, ∃ ts, Glob.parse p = .ok ts := by
  rw [patternProblems, List.filterMap_eq_nil_iff]
  constructor
  · intro h p hp
    -- each pattern stands in the zip beside its index
    have hfst : p ∈ (ps.zip (List.range ps.length)).map Prod.fst := by
      rw [List.map_fst_zip (by simp)]
      exact hp
    obtain ⟨⟨q, i⟩, hmem, rfl⟩ := List.mem_map.1 hfst
    have hnone := h (q, i) hmem
    cases hq : Glob.parse q with
    | ok ts => exact ⟨ts, rfl⟩
    | error e => simp [hq] at hnone
  · rintro h ⟨p, i⟩ hmem
    obtain ⟨ts, hts⟩ := h p (List.of_mem_zip hmem).1
    simp [hts]

namespace Settings

/-- Settings have no problem exactly when they name a catalog pattern, every pattern reads as a
glob pattern, neither language is blank, and the thread count is not zero. -/
theorem problems_eq_nil_iff (s : Settings) :
    s.problems = [] ↔
      s.catalogFiles.includePatterns ≠ [] ∧
      (∀ p ∈ s.catalogFiles.includePatterns, ∃ ts, Glob.parse p = .ok ts) ∧
      (∀ p ∈ s.catalogFiles.excludePatterns, ∃ ts, Glob.parse p = .ok ts) ∧
      (∀ p ∈ s.excludePatterns, ∃ ts, Glob.parse p = .ok ts) ∧
      Text.isBlankText s.sourceLanguage = false ∧
      (∀ l, s.defaultLanguage = some l → Text.isBlankText l = false) ∧
      s.threads ≠ some 0 := by
  rcases s with ⟨files, excluded, source, default, lookup, threads, checks⟩
  cases default <;> simp [problems, patternProblems_eq_nil_iff]

/-- The default settings pass their own check. -/
theorem problems_default : ({} : Settings).problems = [] := by
  decide +kernel

theorem checked_eq_ok_iff {s s' : Settings} : s.checked = .ok s' ↔ s.problems = [] ∧ s' = s := by
  rw [checked]
  split
  · rename_i h
    simp only [Except.ok.injEq, List.isEmpty_iff.1 h, true_and]
    exact eq_comm
  · rename_i h
    simp only [reduceCtorEq, false_iff, not_and]
    intro hp
    simp [hp] at h

/-- Settings that pass the check have no problem. -/
theorem problems_of_checked {s s' : Settings} (h : s.checked = .ok s') : s'.problems = [] := by
  obtain ⟨hp, rfl⟩ := checked_eq_ok_iff.1 h
  exact hp

/-- The settings a workspace gives have no problem. -/
theorem load_problems {t : Files.Tree} {root : String} {s : Settings}
    (h : Settings.load t root = .ok s) : s.problems = [] := by
  have hchecked {x : Except SettingsError Settings} (hx : (x >>= fun s => s.checked) = .ok s) :
      s.problems = [] := by
    obtain ⟨_, -, hc⟩ := bind_eq_ok hx
    exact problems_of_checked hc
  -- whether the settings come from the file or are the defaults, they pass the check last
  rw [Settings.load] at h
  split at h
  · split at h <;> exact hchecked h
  · exact hchecked h

end Settings

/-- Patterns that all read as glob patterns give their matchers. -/
theorem readPatterns_ok (blame : String → Glob.GlobError → MatcherError) (ps : List String)
    (h : ∀ p ∈ ps, ∃ ts, Glob.parse p = .ok ts) : ∃ gs, readPatterns blame ps = .ok gs := by
  induction ps with
  | nil => exact ⟨[], rfl⟩
  | cons p ps ih =>
    obtain ⟨ts, hts⟩ := h p List.mem_cons_self
    obtain ⟨gs, hgs⟩ := ih (fun q hq => h q (List.mem_cons_of_mem _ hq))
    exact ⟨⟨p, ts, false⟩ :: gs, by simp [readPatterns, Glob.Pattern.ofText, hts, hgs, Except.map]⟩

/-- Settings with no problem give a file matcher. -/
theorem FileMatcher.ofSettings_ok {s : Settings} (h : s.problems = []) :
    ∃ m, FileMatcher.ofSettings s = .ok m := by
  obtain ⟨-, hcatalogs, hcatalogsExcluded, hexcluded, -⟩ := (Settings.problems_eq_nil_iff s).1 h
  obtain ⟨excluded, he⟩ := readPatterns_ok .invalidExclude _ hexcluded
  obtain ⟨catalogs, hc⟩ := readPatterns_ok .invalidCatalogPattern _ hcatalogs
  obtain ⟨catalogsExcluded, hx⟩ := readPatterns_ok .invalidExclude _ hcatalogsExcluded
  exact ⟨⟨excluded, catalogs, catalogsExcluded⟩, by rw [FileMatcher.ofSettings, he, hc, hx]; rfl⟩

section Indexing

variable {t : Files.Tree} {root : String} {s : Settings} {m : FileMatcher}

/-- Past the root and the patterns, indexing fails when the settings ask for more readers than
can be counted. -/
theorem indexWorkspace_tooManyReaders (hdir : t.isDirectory root = true)
    (hm : FileMatcher.ofSettings s = .ok m) (hth : s.threads.any (· > maxReaders) = true) :
    indexWorkspace t root s = .error .tooManyReaders := by
  simp only [indexWorkspace, hdir, hm, hth, Bool.not_true, if_true]
  rfl

/-- With a directory for its root and a matcher from its patterns, indexing succeeds exactly when
the settings ask for no more readers than can be counted. -/
theorem indexWorkspace_ok_iff (hdir : t.isDirectory root = true)
    (hm : FileMatcher.ofSettings s = .ok m) :
    (∃ r, indexWorkspace t root s = .ok r) ↔ s.threads.all (· ≤ maxReaders) = true := by
  -- the number of readers is the only check left
  have hall : s.threads.all (· ≤ maxReaders) = !s.threads.any (· > maxReaders) := by
    cases s.threads with
    | none => rfl
    | some n =>
      simp only [Option.all_some, Option.any_some]
      by_cases h : n ≤ maxReaders
      · rw [decide_eq_true h, decide_eq_false (Nat.not_lt.2 h)]
        rfl
      · rw [decide_eq_false h, decide_eq_true (Nat.lt_of_not_le h)]
        rfl
  rw [hall]
  cases hth : s.threads.any (· > maxReaders)
  · exact iff_of_true ⟨_, by simp only [indexWorkspace, hdir, hm, hth, Bool.not_true]; rfl⟩ rfl
  · simp [indexWorkspace_tooManyReaders hdir hm hth]

end Indexing

namespace Configuration

@[simp] theorem perform_nil (c : Configuration) : c.perform [] = c := rfl

@[simp] theorem perform_cons (c : Configuration) (k : Call) (ks : List Call) :
    c.perform (k :: ks) = (c.call k).2.perform ks := rfl

theorem settingsAt_problems {t : Files.Tree} {root : Option String} {s : Settings}
    (h : settingsAt t root = .ok s) : s.problems = [] := by
  cases root with
  | some r => exact Settings.load_problems h
  | none => exact Settings.problems_of_checked h

/-- A call either fails and changes nothing, or succeeds and puts in force settings with no
problem. -/
theorem call_cases (c : Configuration) (k : Call) :
    (∃ e, c.call k = (.error e, c)) ∨
      ((c.call k).1 = .ok () ∧ (c.call k).2.settings.problems = []) := by
  cases k with
  | load t root =>
    simp only [call, load]
    split
    · rename_i s hs
      exact .inr ⟨rfl, settingsAt_problems hs⟩
    · exact .inl ⟨_, rfl⟩
  | update s =>
    simp only [call, update]
    split
    · rename_i s' hs
      exact .inr ⟨rfl, Settings.problems_of_checked hs⟩
    · exact .inl ⟨_, rfl⟩

/-- A call that answers an error leaves the configuration as it was. -/
theorem call_error {c : Configuration} {k : Call} {e : SettingsError}
    (h : (c.call k).1 = .error e) : (c.call k).2 = c := by
  rcases call_cases c k with ⟨e', he⟩ | ⟨hok, -⟩
  · rw [he]
  · rw [hok] at h
    cases h

theorem call_problems (c : Configuration) (k : Call) (hc : c.settings.problems = []) :
    (c.call k).2.settings.problems = [] := by
  rcases call_cases c k with ⟨e, he⟩ | ⟨-, hp⟩
  · rw [he]
    exact hc
  · exact hp

theorem perform_problems (c : Configuration) (cs : List Call) (hc : c.settings.problems = []) :
    (c.perform cs).settings.problems = [] := by
  induction cs generalizing c with
  | nil => exact hc
  | cons k ks ih => exact ih _ (call_problems c k hc)

/-- After any calls from the defaults, the settings in force pass the check, give a file matcher
and ask for at least one reader, and a further call that fails leaves the settings and the root
as they are. Indexing a workspace with those settings fails for no pattern, and succeeds exactly
when the number of readers they ask for, if any, is at most `maxReaders`. -/
theorem perform_keeps_settings_checked (cs : List Call) :
    let c := ({} : Configuration).perform cs
    (∀ (k : Call) (e : SettingsError), (c.call k).1 = .error e → (c.call k).2 = c) ∧
    c.settings.problems = [] ∧ (∃ m, FileMatcher.ofSettings c.settings = .ok m) ∧
    c.settings.threads ≠ some 0 ∧
    ∀ (t : Files.Tree) (root : String), t.isDirectory root = true →
      ((∃ r, indexWorkspace t root c.settings = .ok r) ↔
        c.settings.threads.all (· ≤ maxReaders) = true) := by
  intro c
  have hs : c.settings.problems = [] := perform_problems {} cs Settings.problems_default
  obtain ⟨m, hm⟩ := FileMatcher.ofSettings_ok hs
  have hthreads : c.settings.threads ≠ some 0 :=
    ((Settings.problems_eq_nil_iff c.settings).1 hs).2.2.2.2.2.2
  exact ⟨fun k e h => call_error h, hs, ⟨m, hm⟩, hthreads,
    fun t root hdir => indexWorkspace_ok_iff hdir hm⟩

/-- Settings that ask for one reader more than can be counted pass the check: taking them
succeeds, and indexing a workspace with them then fails for the number of readers. -/
theorem update_passes_too_many_readers :
    let c := ({} : Configuration).perform [.update { threads := some (maxReaders + 1) }]
    c.settings.problems = [] ∧ c.settings.threads = some (maxReaders + 1) ∧
      indexWorkspace { entries := [(["w"], .directory)] } "w" c.settings = .error .tooManyReaders := by
  intro c
  have hs : ({ threads := some (maxReaders + 1) } : Settings).problems = [] := by decide +kernel
  have hc : c.settings = { threads := some (maxReaders + 1) } := by
    have hchecked : ({ threads := some (maxReaders + 1) } : Settings).checked =
        .ok { threads := some (maxReaders + 1) } :=
      Settings.checked_eq_ok_iff.2 ⟨hs, rfl⟩
    simp only [c, perform_cons, perform_nil, call, update, hchecked]
  obtain ⟨m, hm⟩ := FileMatcher.ofSettings_ok hs
  refine ⟨hc ▸ hs, by rw [hc], ?_⟩
  rw [hc]
  exact indexWorkspace_tooManyReaders (by cbv) hm (by decide)

end Configuration

end Phrasebook
