import Phrasebook.Lookup.Active
import Phrasebook.Language.Detect
import Mathlib.Data.List.ReduceOption

/-! # Choosing the language to show

The candidates (the language asked for, the configured one, the one of the system, each perhaps
absent) are tried in order. The one chosen is exactly the first present candidate for which the
collection has a catalog, provided no present candidate before it is the source language (has its
primary subtag): reaching the source language ends the search with nothing, and a candidate that
is the source language but has a catalog still wins. So whatever is chosen has a catalog, and
switching the active catalog to it succeeds and installs that catalog.
-/

namespace Phrasebook.Language

/-- `c` is the candidate to show from `cands`: it is present and has a catalog in `available`,
and every present candidate before it has none and does not have the primary subtag `sp` of the
source language. -/
def FirstUsable (available : Collection) (sp : String) (cands : List (Option String)) (c : String) :
    Prop :=
  ∃ pre post, cands = pre ++ some c :: post ∧ (available.get? c).isSome ∧
    ∀ c', some c' ∈ pre → available.get? c' = none ∧ primary (normalize c') ≠ sp

section FirstUsable

variable {available : Collection} {sp c : String}

theorem not_firstUsable_nil : ¬FirstUsable available sp [] c := by
  rintro ⟨pre, post, h, -⟩
  simp at h

theorem firstUsable_none_cons (cands : List (Option String)) :
    FirstUsable available sp (none :: cands) c ↔ FirstUsable available sp cands c := by
  constructor
  · rintro ⟨pre, post, h, hc, hpre⟩
    -- an absent candidate is no split point, so it opens `pre`
    cases pre with
    | nil => simp at h
    | cons y pre =>
      obtain ⟨-, rfl⟩ := List.cons.inj h
      exact ⟨pre, post, rfl, hc, fun c' hc' => hpre c' (List.mem_cons_of_mem _ hc')⟩
  · rintro ⟨pre, post, rfl, hc, hpre⟩
    refine ⟨none :: pre, post, rfl, hc, fun c' hc' => ?_⟩
    rcases List.mem_cons.1 hc' with h | h
    · cases h
    · exact hpre c' h

theorem firstUsable_some_cons (x : String) (cands : List (Option String)) :
    FirstUsable available sp (some x :: cands) c ↔
      (x = c ∧ (available.get? c).isSome) ∨
      (available.get? x = none ∧ primary (normalize x) ≠ sp ∧ FirstUsable available sp cands c) := by
  constructor
  · rintro ⟨pre, post, h, hc, hpre⟩
    cases pre with
    | nil =>
      obtain ⟨hx, -⟩ := List.cons.inj h
      exact .inl ⟨Option.some.inj hx, hc⟩
    | cons y pre =>
      obtain ⟨rfl, rfl⟩ := List.cons.inj h
      obtain ⟨hx, hsp⟩ := hpre x List.mem_cons_self
      exact .inr ⟨hx, hsp, pre, post, rfl, hc, fun c' hc' => hpre c' (List.mem_cons_of_mem _ hc')⟩
  · rintro (⟨rfl, hc⟩ | ⟨hx, hsp, pre, post, rfl, hc, hpre⟩)
    · exact ⟨[], cands, rfl, hc, fun _ h => absurd h List.not_mem_nil⟩
    · refine ⟨some x :: pre, post, rfl, hc, fun c' hc' => ?_⟩
      rcases List.mem_cons.1 hc' with h | h
      · cases h
        exact ⟨hx, hsp⟩
      · exact hpre c' h

end FirstUsable

theorem resolve_go_eq_some_iff (available : Collection) (sp c : String) (cands : List (Option String)) :
    resolve.go available sp cands.reduceOption = some c ↔ FirstUsable available sp cands c := by
  induction cands with
  | nil => simp [List.reduceOption_nil, resolve.go, not_firstUsable_nil]
  | cons x cands ih =>
    cases x with
    | none => rw [List.reduceOption_cons_of_none, ih, firstUsable_none_cons]
    | some x =>
      rw [List.reduceOption_cons_of_some, firstUsable_some_cons, resolve.go]
      -- the two exits of the search: a catalog is found, or the source language is reached
      cases hget : available.get? x with
      | some k =>
        simp only [Option.isSome_some, if_true, Option.some.injEq, reduceCtorEq, false_and, or_false]
        constructor
        · rintro rfl
          exact ⟨rfl, by rw [hget]; rfl⟩
        · rintro ⟨rfl, -⟩
          rfl
      | none =>
        simp only [Option.isSome_none, Bool.false_eq_true, if_false, true_and]
        by_cases hsp : primary (normalize x) = sp
        · simp only [hsp, if_true, reduceCtorEq, false_iff, ne_eq, not_true_eq_false, false_and,
            or_false]
          rintro ⟨rfl, h⟩
          simp [hget] at h
        · simp only [hsp, if_false, ih, ne_eq, not_false_eq_true, true_and]
          constructor
          · exact .inr
          · rintro (⟨rfl, h⟩ | h)
            · simp [hget] at h
            · exact h

/-- The language picked from candidates is exactly the first present candidate with a catalog,
provided no present candidate before it has the source language's primary subtag. -/
theorem resolve_eq_some_iff (cands : List (Option String)) (source : String) (available : Collection)
    (c : String) :
    resolve cands source available = some c ↔
      FirstUsable available (primary (normalize source)) cands c :=
  resolve_go_eq_some_iff available _ c cands

end Phrasebook.Language

namespace Phrasebook.Active

theorem switchTo_of_isSome {s : Collection} {language : String} (h : (s.get? language).isSome)
    (a : Active) :
    (a.switchTo s language).1 = true ∧ (a.switchTo s language).2.translator.catalog = s.get? language := by
  obtain ⟨c, hc⟩ := Option.isSome_iff_exists.1 h
  simp [switchTo, hc, replace, translator]

end Phrasebook.Active

namespace Phrasebook.Language

/-- The language chosen from candidates is the first present one with a catalog, unless a present
candidate before it is the source language; switching to the chosen language then succeeds and
installs the collection's catalog for it. -/
theorem resolve_switches_to_first_usable (cands : List (Option String)) (source : String)
    (available : Collection) (c : String) :
    (resolve cands source available = some c ↔
      FirstUsable available (primary (normalize source)) cands c) ∧
    (resolve cands source available = some c → ∀ a : Active,
      (a.switchTo available c).1 = true ∧
        (a.switchTo available c).2.translator.catalog = available.get? c) := by
  refine ⟨resolve_eq_some_iff cands source available c, fun h a => ?_⟩
  obtain ⟨-, -, -, hc, -⟩ := (resolve_eq_some_iff cands source available c).1 h
  exact Active.switchTo_of_isSome hc a

theorem resolve_switches_to_first_usable_skips :
    resolve [some "de", none, some "ru_RU"] "en"
        (({} : Collection).insert "ru" (Catalog.empty "ru")).2 = some "ru_RU" ∧
      (({} : Active).switchTo (({} : Collection).insert "ru" (Catalog.empty "ru")).2 "ru_RU").1 = true ∧
      (({} : Active).switchTo (({} : Collection).insert "ru" (Catalog.empty "ru")).2 "ru_RU").2.translator.catalog =
        (({} : Collection).insert "ru" (Catalog.empty "ru")).2.get? "ru_RU" := by
  have h : resolve [some "de", none, some "ru_RU"] "en"
      (({} : Collection).insert "ru" (Catalog.empty "ru")).2 = some "ru_RU" := by
    decide +kernel
  exact ⟨h, (resolve_switches_to_first_usable _ _ _ _).2 h {}⟩

end Phrasebook.Language
