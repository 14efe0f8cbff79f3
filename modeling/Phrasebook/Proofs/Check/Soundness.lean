import Phrasebook.Proofs.Check.Findings
import Phrasebook.Proofs.Lookup.Fallback
import Phrasebook.Proofs.Plural.Coverage

/-! # A clean check means no finished entry falls back

The checks that look at plural rules, plural forms and empty texts cover every reason for which
a lookup of a finished entry could answer with its source text. When a catalog's document passes
them, each finished entry is found under its own key, a plain entry offers its text, and an entry
with plural forms offers the form that any count selects: the rule of the language is known, the
entry has one form per plural category, so the count's index is in range, and no form is empty.
-/

namespace Phrasebook

namespace Document

variable {d : Document} {levels : CheckLevels} {c : String} {m : Entry}

/-- A finished entry of a catalog's document gets the checks of an entry. -/
theorem reports_of_entryFindings (hn : d.keys.Nodup) (hm : ∃ x ∈ d.contexts, x.name = c ∧ m ∈ x.entries)
    (hfin : m.status = .finished) {kind : FindingKind}
    (h : Reports (Check.entryFindings levels (d.language.bind PluralRule.ofLanguage) c m) kind) :
    Reports (d.check levels) kind := by
  obtain ⟨x, hx, rfl, hmx⟩ := hm
  have hsub : Check.entryFindings levels (d.language.bind PluralRule.ofLanguage) x.name m ⊆
      Check.contextFindings levels (d.language.bind PluralRule.ofLanguage) x.name [] x.entries :=
    Check.entryFindings_subset_contextFindings (sourceKeys_nodup hn hx) hmx List.not_mem_nil
      (by simp [hfin, Status.isGone])
  exact (reports_check_iff d kind).2 (.inr ⟨x, hx, reports_of_subset hsub h⟩)

/-- A document without a plural-rule finding has a rule whenever one of its entries has plural
forms. -/
theorem rule_of_not_reports (hplural : levels.pluralForms ≠ .off)
    (hrule : ¬Reports (d.check levels) .unknownPluralRule) (hm : ∃ x ∈ d.contexts, x.name = c ∧ m ∈ x.entries)
    {forms : List String} (hforms : m.target = .plural forms) :
    ∃ r, d.language.bind PluralRule.ofLanguage = some r := by
  obtain ⟨x, hx, -, hmx⟩ := hm
  cases hr : d.language.bind PluralRule.ofLanguage with
  | some r => exact ⟨r, rfl⟩
  | none =>
    refine absurd ((reports_check_iff d _).2 (.inl (Check.reports_ruleFindings_iff.2 ?_))) hrule
    exact ⟨rfl, hr, hplural, x, hx, m, hmx, by simp [hforms, Target.isPlural]⟩

/-- When a catalog's document passes the checks of plural rules, plural forms and empty texts, run
at levels that are not off, no finished entry falls back to its source text: for every count its
plural forms are looked up at the index the count selects under the catalog's rule, which is in
range, and its plain text is looked up as it is. -/
theorem check_clean_never_falls_back {k : Catalog} (hk : Catalog.ofDocument d = .ok k)
    (hplural : levels.pluralForms ≠ .off) (hempty : levels.emptyTranslation ≠ .off)
    (hclean : ∀ x ∈ d.check levels,
      x.kind ≠ .unknownPluralRule ∧ x.kind ≠ .pluralFormCount ∧ x.kind ≠ .emptyTarget)
    (hm : ∃ x ∈ d.contexts, x.name = c ∧ m ∈ x.entries) (hfin : m.status = .finished)
    (o : LookupOptions) (n : Int) (args : List String) :
    (∀ forms, m.target = .plural forms → ∃ r form, k.rule = some r ∧ forms[r.formIndex n]? = some form ∧
      Translator.lookupPlural { catalog := some k, options := o } c m.source m.disambiguation n args =
        Template.substitute form (some n) args) ∧
    (∀ text, m.target = .plain text →
      Translator.lookup { catalog := some k, options := o } c m.source m.disambiguation args =
        Template.substitute text none args) := by
  have hrule := Catalog.ofDocument_rule hk
  have hn := (Catalog.ofDocument_document hk).2
  have hnot (kind : FindingKind) (hkind : ∀ x ∈ d.check levels, x.kind ≠ kind) :
      ¬Reports (d.check levels) kind :=
    fun ⟨x, hx, hxk⟩ => hkind x hx hxk
  -- the entry is found under its own key
  have hchosen : d.Chosen c m.source m.disambiguation m := by
    obtain ⟨x, hx, hname, hmx⟩ := hm
    exact .inl ⟨x, hx, hname, hmx, rfl, rfl⟩
  -- no text of the entry is empty
  have hfull : "" ∉ m.target.texts := fun h =>
    hnot _ (fun x hx => (hclean x hx).2.2)
      (reports_of_entryFindings hn hm hfin (Check.reports_entryFindings_emptyTarget.2 ⟨hempty, hfin, h⟩))
  refine ⟨fun forms hforms => ?_, fun text htext => ?_⟩
  · obtain ⟨r, hr⟩ := rule_of_not_reports hplural (hnot _ fun x hx => (hclean x hx).1) hm hforms
    -- the entry has one form per plural category, so every count's index is in range
    have hcount : forms.length = r.formCount := by
      by_contra hne
      exact hnot _ (fun x hx => (hclean x hx).2.1) (reports_of_entryFindings hn hm hfin
        (Check.reports_entryFindings_pluralFormCount.2 ⟨hplural, forms, r, hforms, hr, .inr hfin, hne⟩))
    have hlt : r.formIndex n < forms.length := hcount ▸ PluralRule.formIndex_lt r n
    have hform : forms[r.formIndex n]? = some forms[r.formIndex n] := List.getElem?_eq_getElem hlt
    have hoffers : m.OffersForm o k.rule n forms[r.formIndex n] :=
      ⟨.inl hfin, r, forms, hrule.trans hr, hforms, hform,
        fun h => hfull (by rw [hforms]; exact h ▸ List.getElem_mem hlt)⟩
    refine ⟨r, _, hrule.trans hr, hform, ?_⟩
    simp only [Translator.lookupPlural, Option.getD_some,
      (Translator.lookupPluralText_eq_some_iff (t := { catalog := some k, options := o }) rfl
        hk c _ _ n _).2 ⟨m, hchosen, hoffers⟩]
  · have hoffers : m.Offers o text :=
      ⟨.inl hfin, htext, fun h => hfull (by simp [htext, Target.texts, h])⟩
    simp only [Translator.lookup, Option.getD_some,
      (Translator.lookupText_eq_some_iff (t := { catalog := some k, options := o }) rfl
        hk c _ _ _).2 ⟨m, hchosen, hoffers⟩]

/-- A Russian catalog whose check finds nothing: a count of 21 selects the form for counts ending
in 1, never the source text. -/
theorem check_clean_never_falls_back_files :
    Catalog.ofDocument
        { language := some "ru",
          contexts := [{ name := "FileDialog",
                         entries := [{ source := "%n file(s)",
                                       target := .plural ["%n файл", "%n файла", "%n файлов"] }] }] } =
      .ok { document :=
              { language := some "ru",
                contexts := [{ name := "FileDialog",
                               entries := [{ source := "%n file(s)",
                                             target := .plural ["%n файл", "%n файла", "%n файлов"] }] }] },
            rule := some .eastSlavic,
            index := [("FileDialog", [("%n file(s)", [⟨none, 0, 0⟩])])] } ∧
    check
        { language := some "ru",
          contexts := [{ name := "FileDialog",
                         entries := [{ source := "%n file(s)",
                                       target := .plural ["%n файл", "%n файла", "%n файлов"] }] }] } {} = [] ∧
    Translator.lookupPlural
        { catalog := some
            { document :=
                { language := some "ru",
                  contexts := [{ name := "FileDialog",
                                 entries := [{ source := "%n file(s)",
                                               target := .plural ["%n файл", "%n файла", "%n файлов"] }] }] },
              rule := some .eastSlavic,
              index := [("FileDialog", [("%n file(s)", [⟨none, 0, 0⟩])])] } }
        "FileDialog" "%n file(s)" none 21 [] =
      Template.substitute "%n файл" (some 21) [] := by
  have hcheck : check
      { language := some "ru",
        contexts := [{ name := "FileDialog",
                       entries := [{ source := "%n file(s)",
                                     target := .plural ["%n файл", "%n файла", "%n файлов"] }] }] } {} = [] := by
    decide +kernel
  obtain ⟨hplural, -⟩ := check_clean_never_falls_back
    (d := { language := some "ru",
            contexts := [{ name := "FileDialog",
                           entries := [{ source := "%n file(s)",
                                         target := .plural ["%n файл", "%n файла", "%n файлов"] }] }] })
    rfl (by decide : ({} : CheckLevels).pluralForms ≠ .off) (by decide) (by simp [hcheck])
    ⟨_, List.mem_cons_self, rfl, List.mem_cons_self⟩ rfl {} 21 []
  obtain ⟨r, form, hr, hform, hlookup⟩ := hplural _ rfl
  cases hr
  cases hform
  exact ⟨rfl, hcheck, hlookup⟩

end Document

end Phrasebook
