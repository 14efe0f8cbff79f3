import Phrasebook.Check.Validate
import Phrasebook.Proofs.Catalog.Index

/-! # What the checks report

The findings of the checks of a document, read kind by kind. A document-level finding says that
plural forms cannot be chosen; every other finding is about one entry of one context element.
Within a context element the entries are met in order with the keys seen so far: an entry whose
source text and disambiguation came earlier in the same element is reported as a duplicate and
checked no further, and every other entry still in use gets the checks of an entry.
-/

namespace Phrasebook

theorem Severity.isOn_iff (s : Severity) : s.isOn = true ↔ s ≠ .off := by
  cases s <;> simp [isOn]

/-- A list of findings has one of a kind. -/
def Reports (ds : List Diagnostic) (kind : FindingKind) : Prop :=
  ∃ x ∈ ds, x.kind = kind

instance (ds : List Diagnostic) (kind : FindingKind) : Decidable (Reports ds kind) :=
  inferInstanceAs (Decidable (∃ x ∈ ds, x.kind = kind))

section Reports

variable {ds es : List Diagnostic} {kind : FindingKind}

@[simp] theorem not_reports_nil : ¬Reports [] kind := by
  simp [Reports]

@[simp] theorem reports_append : Reports (ds ++ es) kind ↔ Reports ds kind ∨ Reports es kind := by
  simp only [Reports, List.mem_append, or_and_right, exists_or]

theorem reports_flatMap {α : Type} {l : List α} {f : α → List Diagnostic} :
    Reports (l.flatMap f) kind ↔ ∃ a ∈ l, Reports (f a) kind := by
  simp only [Reports, List.mem_flatMap]
  exact ⟨fun ⟨x, ⟨a, ha, hx⟩, hk⟩ => ⟨a, ha, x, hx, hk⟩, fun ⟨a, ha, x, hx, hk⟩ => ⟨x, ⟨a, ha, hx⟩, hk⟩⟩

theorem reports_of_subset (h : ds ⊆ es) (hr : Reports ds kind) : Reports es kind :=
  let ⟨x, hx, hk⟩ := hr
  ⟨x, h hx, hk⟩

end Reports

/-- The key that tells apart the entries of one context: source text and disambiguation. -/
def Entry.sourceKey (e : Entry) : String × Option String :=
  (e.source, e.disambiguation)

/-- With distinct keys in the document, no context element repeats a key. -/
theorem Document.sourceKeys_nodup {d : Document} (hn : d.keys.Nodup) {x : Context}
    (hx : x ∈ d.contexts) : (x.entries.map Entry.sourceKey).Nodup := by
  have hx' : (x.entries.map (Entry.key x.name)).Nodup :=
    (List.nodup_flatMap.1 hn).1 x hx
  have hmap : x.entries.map (Entry.key x.name) = (x.entries.map Entry.sourceKey).map (x.name, ·) := by
    simp only [List.map_map]
    rfl
  rw [hmap] at hx'
  exact hx'.of_map _

namespace Check

variable {levels : CheckLevels} {rule : Option PluralRule} {ctx : String} {e : Entry}

theorem reports_about {level : Severity} {k kind : FindingKind} {message : String} :
    Reports (about level k ctx e message) kind ↔ level ≠ .off ∧ k = kind := by
  unfold about
  split
  · rename_i hon
    simp [Reports, (Severity.isOn_iff level).1 hon]
  · rename_i hoff
    simp only [not_reports_nil, false_iff, not_and]
    exact fun hon => absurd ((Severity.isOn_iff level).2 hon) hoff

/-- Placeholder checks report placeholder findings only. -/
theorem reports_placeholderFindings {text : String} {kind : FindingKind}
    (h : Reports (placeholderFindings levels ctx e text) kind) :
    kind = .placeholderMismatch ∨ kind = .missingCountPlaceholder := by
  unfold placeholderFindings at h
  simp only [reports_append] at h
  rcases h with h | h <;> split at h
  all_goals first
    | exact absurd h not_reports_nil
    | simp [reports_about] at h; simp [h]

theorem reports_textFindings {kind : FindingKind}
    (h : Reports ((e.target.texts.filter fun t => !t.isEmpty).flatMap
      (placeholderFindings levels ctx e)) kind) :
    kind = .placeholderMismatch ∨ kind = .missingCountPlaceholder := by
  obtain ⟨t, -, ht⟩ := reports_flatMap.1 h
  exact reports_placeholderFindings ht

theorem reports_ite_about {c : Prop} [Decidable c] {level : Severity} {k kind : FindingKind}
    {message : String} :
    Reports (if c then about level k ctx e message else []) kind ↔ c ∧ level ≠ .off ∧ k = kind := by
  split <;> simp [reports_about, *]

/-- An entry's checks report an empty target exactly for a finished entry with an empty text. -/
theorem reports_entryFindings_emptyTarget :
    Reports (entryFindings levels rule ctx e) .emptyTarget ↔
      levels.emptyTranslation ≠ .off ∧ e.status = .finished ∧ "" ∈ e.target.texts := by
  have htexts : ¬Reports ((e.target.texts.filter fun t => !t.isEmpty).flatMap
      (placeholderFindings levels ctx e)) .emptyTarget := fun h => by
    rcases reports_textFindings h with h | h <;> cases h
  unfold entryFindings
  simp only [reports_append, reports_ite_about, htexts, or_false]
  split
  · simp [reports_ite_about, String.isEmpty_iff]
    tauto
  · simp [String.isEmpty_iff]
    tauto

/-- An entry's checks report a wrong number of plural forms exactly when the rule is known, the
entry has plural forms, one of them is not empty or the entry is finished, and their number is
not the rule's. -/
theorem reports_entryFindings_pluralFormCount :
    Reports (entryFindings levels rule ctx e) .pluralFormCount ↔
      levels.pluralForms ≠ .off ∧ ∃ forms r, e.target = .plural forms ∧ rule = some r ∧
        ((∃ t ∈ forms, t ≠ "") ∨ e.status = .finished) ∧ forms.length ≠ r.formCount := by
  have htexts : ¬Reports ((e.target.texts.filter fun t => !t.isEmpty).flatMap
      (placeholderFindings levels ctx e)) .pluralFormCount := fun h => by
    rcases reports_textFindings h with h | h <;> cases h
  unfold entryFindings
  simp only [reports_append, reports_ite_about, htexts, or_false]
  split
  · rename_i forms r heq
    simp [heq, Target.texts, reports_ite_about, String.isEmpty_iff]
    exact and_comm
  · rename_i hno
    simp
    intro _ forms h1 r h2
    exact (hno forms r h1 h2).elim

theorem not_reports_entryFindings_duplicate :
    ¬Reports (entryFindings levels rule ctx e) .duplicateEntry := by
  have htexts : ¬Reports ((e.target.texts.filter fun t => !t.isEmpty).flatMap
      (placeholderFindings levels ctx e)) .duplicateEntry := fun h => by
    rcases reports_textFindings h with h | h <;> cases h
  unfold entryFindings
  simp only [reports_append, reports_ite_about, htexts, or_false]
  split <;> simp [reports_ite_about]

/-- An entry in use whose key is new to its context element gets the checks of an entry. -/
theorem entryFindings_subset_contextFindings {seen : List (String × Option String)} {es : List Entry}
    (hnd : (es.map Entry.sourceKey).Nodup) (he : e ∈ es) (hseen : e.sourceKey ∉ seen)
    (hgone : e.status.isGone = false) :
    entryFindings levels rule ctx e ⊆ contextFindings levels rule ctx seen es := by
  induction es generalizing seen with
  | nil => cases he
  | cons e' es ih =>
    rw [List.map_cons, List.nodup_cons] at hnd
    rcases List.mem_cons.1 he with rfl | he
    · -- the entry itself: its key is new and it is in use
      have hnew : seen.contains e.sourceKey = false := by simpa using hseen
      simp only [contextFindings]
      rw [if_neg (by simpa [Entry.sourceKey] using hnew), if_neg (by simp [hgone])]
      exact List.subset_append_left _ _
    · have hne : e.sourceKey ≠ e'.sourceKey := fun h => hnd.1 (h ▸ List.mem_map_of_mem he)
      have hrest : e.sourceKey ∉ e'.sourceKey :: seen := by simp [hne, hseen]
      simp only [contextFindings]
      split_ifs
      · exact List.Subset.trans (ih hnd.2 he hseen) (List.subset_append_right _ _)
      · exact ih hnd.2 he hrest
      · exact List.Subset.trans (ih hnd.2 he hrest) (List.subset_append_right _ _)

/-- A context element reports a duplicate exactly when its keys repeat or one was seen before. -/
theorem reports_contextFindings_duplicate_iff (hon : levels.duplicates ≠ .off)
    (seen : List (String × Option String)) (es : List Entry) :
    Reports (contextFindings levels rule ctx seen es) .duplicateEntry ↔
      ¬((es.map Entry.sourceKey).Nodup ∧ ∀ k ∈ es.map Entry.sourceKey, k ∉ seen) := by
  induction es generalizing seen with
  | nil => simp [contextFindings]
  | cons e es ih =>
    rw [List.map_cons, List.nodup_cons, List.forall_mem_cons]
    simp only [contextFindings]
    by_cases hdup : e.sourceKey ∈ seen
    · rw [if_pos (by simpa [Entry.sourceKey] using hdup)]
      simp [reports_about, hon, hdup]
    · rw [if_neg (by simpa [Entry.sourceKey] using hdup)]
      have hrest : Reports (contextFindings levels rule ctx ((e.source, e.disambiguation) :: seen) es)
          .duplicateEntry ↔ _ := ih (e.sourceKey :: seen)
      rw [forall_not_mem_cons_seen] at hrest
      -- entry checks never report a duplicate, so only the rest of the element counts
      split_ifs <;> simp only [reports_append, not_reports_entryFindings_duplicate, false_or, hrest] <;>
        tauto

theorem reports_ruleFindings_iff {d : Document} {kind : FindingKind} :
    Reports (ruleFindings levels d rule) kind ↔
      kind = .unknownPluralRule ∧ rule = none ∧ levels.pluralForms ≠ .off ∧
        ∃ x ∈ d.contexts, ∃ e ∈ x.entries, e.target.isPlural = true := by
  unfold ruleFindings
  split
  · rename_i h
    simp only [Bool.and_eq_true, Option.isNone_iff_eq_none, Severity.isOn_iff, List.any_eq_true] at h
    simp only [Reports, List.mem_singleton, exists_eq_left]
    exact ⟨fun hk => ⟨hk.symm, h.1.1, h.1.2, h.2⟩, fun hk => hk.1.symm⟩
  · rename_i h
    simp only [Bool.and_eq_true, Option.isNone_iff_eq_none, Severity.isOn_iff, List.any_eq_true] at h
    simp only [not_reports_nil, false_iff, not_and]
    exact fun _ hr hon hplural => h ⟨⟨hr, hon⟩, hplural⟩

end Check

namespace Document

variable {levels : CheckLevels}

theorem reports_check_iff (d : Document) (kind : FindingKind) :
    Reports (d.check levels) kind ↔
      Reports (Check.ruleFindings levels d (d.language.bind PluralRule.ofLanguage)) kind ∨
        ∃ x ∈ d.contexts,
          Reports (Check.contextFindings levels (d.language.bind PluralRule.ofLanguage) x.name [] x.entries)
            kind := by
  simp only [check, reports_append, reports_flatMap]

/-- The duplicate check flags a document exactly when one of its context elements repeats a key. -/
theorem reports_duplicate_iff (d : Document) (hon : levels.duplicates ≠ .off) :
    Reports (d.check levels) .duplicateEntry ↔
      ∃ x ∈ d.contexts, ¬(x.entries.map Entry.sourceKey).Nodup := by
  simp [reports_check_iff, Check.reports_ruleFindings_iff, Check.reports_contextFindings_duplicate_iff hon]

/-- The duplicate check flags a document exactly when one of its context elements repeats a key,
and the loader then refuses the document. The loader refuses more: it counts the contexts of one
name as one, the check looks within each element. So check and loader agree on a document exactly
when each of its repeated keys repeats within one element, if any key repeats at all. -/
theorem check_duplicate_refused_by_loader (d : Document) (hon : levels.duplicates ≠ .off) :
    (Reports (d.check levels) .duplicateEntry ↔
      ∃ x ∈ d.contexts, ¬(x.entries.map Entry.sourceKey).Nodup) ∧
    (Reports (d.check levels) .duplicateEntry →
      ∃ c s o, Catalog.ofDocument d = .error (.duplicate c s o)) ∧
    ((Reports (d.check levels) .duplicateEntry ↔
        ∃ c s o, Catalog.ofDocument d = .error (.duplicate c s o)) ↔
      (¬d.keys.Nodup → ∃ x ∈ d.contexts, ¬(x.entries.map Entry.sourceKey).Nodup)) := by
  have hloader := Catalog.ofDocument_duplicate_iff (d := d)
  -- a repeat within one element is a repeat of the document's keys
  have hwithin : (∃ x ∈ d.contexts, ¬(x.entries.map Entry.sourceKey).Nodup) → ¬d.keys.Nodup :=
    fun ⟨x, hx, hdup⟩ hn => hdup (sourceKeys_nodup hn hx)
  rw [reports_duplicate_iff d hon, hloader]
  exact ⟨Iff.rfl, hwithin, ⟨fun h => h.2, fun h => ⟨hwithin, h⟩⟩⟩

/-- An entry written twice in one context element is flagged by the check and refused by the
loader. -/
theorem check_duplicate_refused_by_loader_repeat :
    ({} : CheckLevels).duplicates ≠ .off ∧
    Reports (check { contexts := [{ name := "Menu", entries := [{ source := "Open" }, { source := "Open" }] }] } {})
      .duplicateEntry ∧
    ∃ c s o, Catalog.ofDocument
        { contexts := [{ name := "Menu", entries := [{ source := "Open" }, { source := "Open" }] }] } =
      .error (.duplicate c s o) := by
  have hon : ({} : CheckLevels).duplicates ≠ .off := by decide
  have h := check_duplicate_refused_by_loader
    { contexts := [{ name := "Menu", entries := [{ source := "Open" }, { source := "Open" }] }] } hon
  have hrep := h.1.2 ⟨_, List.mem_cons_self, by simp [Entry.sourceKey]⟩
  exact ⟨hon, hrep, h.2.1 hrep⟩

/-- Two context elements of one name that hold the same entry: the loader refuses the document,
while the duplicate check, which looks within each element, flags nothing. -/
theorem check_misses_duplicate_across_elements :
    Catalog.ofDocument
        { contexts := [{ name := "Menu", entries := [{ source := "Open", target := .plain "Ouvrir" }] },
                       { name := "Menu", entries := [{ source := "Open", target := .plain "Ouvrir" }] }] } =
      .error (.duplicate "Menu" "Open" none) ∧
    ¬Reports
      (check
        { contexts := [{ name := "Menu", entries := [{ source := "Open", target := .plain "Ouvrir" }] },
                       { name := "Menu", entries := [{ source := "Open", target := .plain "Ouvrir" }] }] } {})
      .duplicateEntry := by
  refine ⟨rfl, ?_⟩
  rw [reports_duplicate_iff _ (by decide)]
  simp

end Document

end Phrasebook
