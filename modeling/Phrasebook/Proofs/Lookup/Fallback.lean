import Phrasebook.Lookup.Translator
import Phrasebook.Proofs.Catalog.Index

/-! # Lookups fall back to the source text

A translator answers with a target text only when its catalog has an entry for the key that
may be used and offers a non-empty plain text; in every other case it answers with the source
text, and so it never shows a vanished text, an unfinished one unless asked to, or an empty one.
The entry is the one with the exact key or, when there is none and a disambiguation was given,
the one without disambiguation. The retry happens only when the exact key is missing, not when
its entry cannot be used (`Translator.find?_eq_some_iff`).

A lookup for a count reads the same entry, and answers with the form that the count selects under
the catalog's plural rule, when there is a rule, the entry has plural forms, the form exists and
is not empty. The count then fills the count placeholders, in decimal.
-/

namespace Phrasebook

/-- The entry a lookup uses: the one with the key asked for, or, when there is none and a
disambiguation was given, the one with the key without disambiguation. -/
def Document.Chosen (d : Document) (c s : String) (q : Option String) (m : Entry) : Prop :=
  d.Keyed c s q m ∨ (q.isSome ∧ (∀ e, ¬d.Keyed c s q e) ∧ d.Keyed c s none m)

/-- The text an entry offers to a lookup: its plain target, when the entry's status allows it
under the options and the text is not empty. -/
def Entry.Offers (o : LookupOptions) (m : Entry) (text : String) : Prop :=
  (m.status = .finished ∨ (m.status = .unfinished ∧ o.includeUnfinished = true)) ∧
    m.target = .plain text ∧ text ≠ ""

/-- The form an entry offers to a lookup for a count: the one the count selects under the plural
rule, when the entry's status allows it under the options, it has plural forms, the form exists
and is not empty. -/
def Entry.OffersForm (o : LookupOptions) (rule : Option PluralRule) (m : Entry) (n : Int)
    (form : String) : Prop :=
  (m.status = .finished ∨ (m.status = .unfinished ∧ o.includeUnfinished = true)) ∧
    ∃ r forms, rule = some r ∧ m.target = .plural forms ∧ forms[r.formIndex n]? = some form ∧
      form ≠ ""

namespace Template

/-- A text with a count placeholder shows the count, in decimal, once it is filled. -/
theorem substitute_shows_count (text : String) (n : Int) (args : List String)
    (h : hasCount text = true) :
    ∃ pre post, substitute text (some n) args = pre ++ toString n ++ post := by
  obtain ⟨tok, hmem, htok⟩ := List.any_eq_true.1 h
  obtain ⟨l1, l2, hsplit⟩ := List.append_of_mem hmem
  cases tok with
  | count raw =>
    unfold substitute
    -- a count token is no literal, so the tokens are filled one by one
    rw [if_neg]
    · dsimp only
      rw [hsplit, List.map_append, List.map_cons, String.join_append, String.join_cons]
      exact ⟨_, _, String.append_assoc.symm⟩
    · rw [List.all_eq_true]
      intro hall
      simpa using hall _ hmem
  | literal => simp at htok
  | arg => simp at htok

end Template

namespace Translator

theorem find?_of_catalog_none {t : Translator} (h : t.catalog = none) (c s : String) (q : Option String) :
    t.find? c s q = none := by
  simp [find?, h]

/-- Over the catalog of a document, the entry found is the chosen one. -/
theorem find?_eq_some_iff {t : Translator} {d : Document} {k : Catalog} (hk : t.catalog = some k)
    (hd : Catalog.ofDocument d = .ok k) (c s : String) (q : Option String) (m : Entry) :
    t.find? c s q = some m ↔ d.Chosen c s q m := by
  have hget (q : Option String) (e : Entry) : k.get? c s q = some e ↔ d.Keyed c s q e :=
    Catalog.get?_eq_some_iff hd
  rw [find?, hk, Option.bind_some]
  split
  · -- the exact key is present, whatever its entry offers: no retry
    rename_i e he
    have hkeyed := (hget q e).1 he
    rw [Option.some.injEq]
    constructor
    · rintro rfl
      exact .inl hkeyed
    · rintro (hm | ⟨-, hmiss, -⟩)
      · exact Option.some.inj (he.symm.trans ((hget q m).2 hm))
      · exact absurd hkeyed (hmiss e)
  · rename_i hnone
    have hmiss : ∀ e, ¬d.Keyed c s q e := fun e he => by
      simp [(hget q e).2 he] at hnone
    cases q with
    | none => simp [Document.Chosen, hmiss]
    | some q => simp [Document.Chosen, hmiss, hget]

theorem usable_iff (t : Translator) (st : Status) :
    t.usable st = true ↔ st = .finished ∨ (st = .unfinished ∧ t.options.includeUnfinished = true) := by
  cases st <;> simp [usable]

theorem plainText?_eq_some_iff (t : Translator) (m : Entry) (text : String) :
    t.plainText? m = some text ↔ m.Offers t.options text := by
  rw [plainText?, Entry.Offers, ← usable_iff]
  by_cases hus : t.usable m.status = true
  · rw [if_pos hus]
    cases m.target with
    | plain x =>
      simp only [Option.ite_none_left_eq_some, Option.some.injEq, String.isEmpty_iff, Target.plain.injEq, hus,
        true_and]
      constructor
      · rintro ⟨hx, rfl⟩
        exact ⟨rfl, hx⟩
      · rintro ⟨rfl, hx⟩
        exact ⟨hx, rfl⟩
    | plural => simp
  · simp [hus]

/-- Over the catalog of a document, what a lookup reads from the entry it finds is what it reads
from the chosen entry. -/
theorem find?_bind_eq_some_iff {t : Translator} {d : Document} {k : Catalog} (hk : t.catalog = some k)
    (hd : Catalog.ofDocument d = .ok k) (c s : String) (q : Option String) (g : Entry → Option String)
    (text : String) :
    (t.find? c s q).bind g = some text ↔ ∃ m, d.Chosen c s q m ∧ g m = some text := by
  simp only [Option.bind_eq_some_iff, find?_eq_some_iff hk hd]

theorem pluralText?_eq_some_iff (t : Translator) (m : Entry) (n : Int) (form : String) :
    t.pluralText? m n = some form ↔ m.OffersForm t.options (t.catalog.bind (·.rule)) n form := by
  rw [pluralText?, Entry.OffersForm, ← usable_iff]
  by_cases hus : t.usable m.status = true
  · rw [if_pos hus]
    cases t.catalog.bind (·.rule) with
    | none => simp
    | some r =>
      cases m.target with
      | plain => simp
      | plural forms =>
        cases hf : forms[r.formIndex n]? with
        | none => simp [hus, hf]
        | some x =>
          simp only [hf, String.isEmpty_iff, Option.ite_none_left_eq_some, Option.some.injEq,
            Target.plural.injEq, hus, true_and]
          constructor
          · rintro ⟨hx, rfl⟩
            exact ⟨r, forms, rfl, rfl, hf, hx⟩
          · rintro ⟨r', forms', hr, hforms, hform, hx⟩
            cases hr
            cases hforms
            obtain rfl : x = form := Option.some.inj (hf.symm.trans hform)
            exact ⟨hx, rfl⟩
  · simp [hus]

/-- Over the catalog of a document, the form looked up for a count is one that the chosen entry
offers under the catalog's rule. -/
theorem lookupPluralText_eq_some_iff {t : Translator} {d : Document} {k : Catalog}
    (hk : t.catalog = some k) (hd : Catalog.ofDocument d = .ok k) (c s : String) (q : Option String)
    (n : Int) (form : String) :
    (t.find? c s q).bind (t.pluralText? · n) = some form ↔
      ∃ m, d.Chosen c s q m ∧ m.OffersForm t.options k.rule n form := by
  rw [find?_bind_eq_some_iff hk hd]
  simp only [pluralText?_eq_some_iff, hk, Option.bind_some]

/-- Over the catalog of a document, the text looked up is one that the chosen entry offers. -/
theorem lookupText_eq_some_iff {t : Translator} {d : Document} {k : Catalog} (hk : t.catalog = some k)
    (hd : Catalog.ofDocument d = .ok k) (c s : String) (q : Option String) (text : String) :
    (t.find? c s q).bind t.plainText? = some text ↔ ∃ m, d.Chosen c s q m ∧ m.Offers t.options text := by
  rw [find?_bind_eq_some_iff hk hd]
  simp only [plainText?_eq_some_iff]

/-- A lookup over a catalog answers with the text the chosen entry offers, and with the source
text when there is no such entry or it offers nothing; without a catalog it always answers with
the source text. Either way the arguments are filled in. -/
theorem lookup_falls_back_to_source {d : Document} {k : Catalog} (hk : Catalog.ofDocument d = .ok k)
    (o : LookupOptions) (c s : String) (q : Option String) (args : List String) :
    (∀ m text, d.Chosen c s q m → m.Offers o text →
      lookup { catalog := some k, options := o } c s q args = Template.substitute text none args) ∧
    ((∀ m text, d.Chosen c s q m → ¬m.Offers o text) →
      lookup { catalog := some k, options := o } c s q args = Template.substitute s none args) ∧
    (∀ t : Translator, t.catalog = none → t.lookup c s q args = Template.substitute s none args) := by
  have htext := lookupText_eq_some_iff (t := { catalog := some k, options := o }) rfl hk c s q
  refine ⟨fun m text hm hoffers => ?_, fun hnone => ?_, fun t ht => ?_⟩
  · simp only [lookup, (htext text).2 ⟨m, hm, hoffers⟩, Option.getD_some]
  · -- no chosen entry offers a text, so none is looked up
    have hmiss := Option.eq_none_iff_forall_ne_some.2 fun text h =>
      let ⟨m, hm, hoffers⟩ := (htext text).1 h
      hnone m text hm hoffers
    simp only [lookup, hmiss, Option.getD_none]
  · simp only [lookup, find?_of_catalog_none ht, Option.bind_none, Option.getD_none]

/-- A disambiguation that the catalog lacks falls back to the entry without one. -/
theorem lookup_falls_back_to_source_retry :
    Catalog.ofDocument
        { contexts := [{ name := "Menu", entries := [{ source := "Open", target := .plain "Ouvrir" }] }] } =
      .ok { document :=
              { contexts := [{ name := "Menu", entries := [{ source := "Open", target := .plain "Ouvrir" }] }] },
            rule := none,
            index := [("Menu", [("Open", [⟨none, 0, 0⟩])])] } ∧
    lookup
        { catalog := some
            { document :=
                { contexts := [{ name := "Menu", entries := [{ source := "Open", target := .plain "Ouvrir" }] }] },
              rule := none,
              index := [("Menu", [("Open", [⟨none, 0, 0⟩])])] } }
        "Menu" "Open" (some "toolbar") [] =
      Template.substitute "Ouvrir" none [] := by
  have hchosen : Document.Chosen
      { contexts := [{ name := "Menu", entries := [{ source := "Open", target := .plain "Ouvrir" }] }] }
      "Menu" "Open" (some "toolbar") { source := "Open", target := .plain "Ouvrir" } :=
    .inr ⟨rfl, by simp [Document.Keyed], by simp [Document.Keyed]⟩
  have hoffers : Entry.Offers {} { source := "Open", target := .plain "Ouvrir" } "Ouvrir" := by
    simp [Entry.Offers]
  exact ⟨rfl, (lookup_falls_back_to_source rfl {} "Menu" "Open" (some "toolbar") []).1 _ _ hchosen hoffers⟩

/-- A lookup for a count over a catalog answers with the form that the chosen entry offers under
the rule of the catalog's language, and with the source text when there is no such entry or it
offers no form; without a catalog it always answers with the source text. Either way the count
and the arguments are filled in, and a count placeholder shows the count in decimal. -/
theorem lookupPlural_falls_back_to_source {d : Document} {k : Catalog}
    (hk : Catalog.ofDocument d = .ok k) (o : LookupOptions) (c s : String) (q : Option String)
    (n : Int) (args : List String) :
    (∀ m form, d.Chosen c s q m → m.OffersForm o (d.language.bind PluralRule.ofLanguage) n form →
      lookupPlural { catalog := some k, options := o } c s q n args =
        Template.substitute form (some n) args) ∧
    ((∀ m form, d.Chosen c s q m → ¬m.OffersForm o (d.language.bind PluralRule.ofLanguage) n form) →
      lookupPlural { catalog := some k, options := o } c s q n args =
        Template.substitute s (some n) args) ∧
    (∀ t : Translator, t.catalog = none →
      t.lookupPlural c s q n args = Template.substitute s (some n) args) ∧
    (∀ text, Template.hasCount text = true →
      ∃ pre post, Template.substitute text (some n) args = pre ++ toString n ++ post) := by
  have hrule := Catalog.ofDocument_rule hk
  have hform := lookupPluralText_eq_some_iff (t := { catalog := some k, options := o }) rfl hk c s q n
  rw [hrule] at hform
  refine ⟨fun m form hm hoffers => ?_, fun hnone => ?_, fun t ht => ?_,
    fun text h => Template.substitute_shows_count text n args h⟩
  · simp only [lookupPlural, (hform form).2 ⟨m, hm, hoffers⟩, Option.getD_some]
  · -- no chosen entry offers a form, so none is looked up
    have hmiss := Option.eq_none_iff_forall_ne_some.2 fun form h =>
      let ⟨m, hm, hoffers⟩ := (hform form).1 h
      hnone m form hm hoffers
    simp only [lookupPlural, hmiss, Option.getD_none]
  · simp only [lookupPlural, find?_of_catalog_none ht, Option.bind_none, Option.getD_none]

/-- The smallest 64-bit count, whose absolute value is no 64-bit integer, selects the Russian
form for counts ending in 8. -/
theorem lookupPlural_falls_back_to_source_min_count :
    Catalog.ofDocument
        { language := some "ru",
          contexts := [{ name := "FileDialog",
                         entries := [{ source := "%n file(s)",
                                       target := .plural ["%n файл", "%n файла", "%n файлов"] }] }] } =
      .ok { document :=
              { language := some "ru",
                contexts := [{ name := "FileDialog",
                               entries := [{ source := "%n file(s)",
                                             target := .plural ["%n файл", "%n файла", "%n файлов"] }] }] },
            rule := some .eastSlavic,
            index := [("FileDialog", [("%n file(s)", [⟨none, 0, 0⟩])])] } ∧
    lookupPlural
        { catalog := some
            { document :=
                { language := some "ru",
                  contexts := [{ name := "FileDialog",
                                 entries := [{ source := "%n file(s)",
                                               target := .plural ["%n файл", "%n файла", "%n файлов"] }] }] },
              rule := some .eastSlavic,
              index := [("FileDialog", [("%n file(s)", [⟨none, 0, 0⟩])])] } }
        "FileDialog" "%n file(s)" none (-9223372036854775808) [] =
      Template.substitute "%n файлов" (some (-9223372036854775808)) [] := by
  have hchosen : Document.Chosen
      { language := some "ru",
        contexts := [{ name := "FileDialog",
                       entries := [{ source := "%n file(s)",
                                     target := .plural ["%n файл", "%n файла", "%n файлов"] }] }] }
      "FileDialog" "%n file(s)" none
      { source := "%n file(s)", target := .plural ["%n файл", "%n файла", "%n файлов"] } :=
    .inl ⟨_, List.mem_cons_self, rfl, List.mem_cons_self, rfl, rfl⟩
  have hoffers : Entry.OffersForm {} ((some "ru").bind PluralRule.ofLanguage)
      { source := "%n file(s)", target := .plural ["%n файл", "%n файла", "%n файлов"] }
      (-9223372036854775808) "%n файлов" :=
    ⟨.inl rfl, .eastSlavic, _, by decide, rfl, by decide, by decide⟩
  exact ⟨rfl, (lookupPlural_falls_back_to_source rfl {} _ _ _ _ []).1 _ _ hchosen hoffers⟩

end Translator

end Phrasebook
