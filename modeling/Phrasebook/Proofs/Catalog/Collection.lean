import Mathlib.Data.List.Induction
import Mathlib.Data.String.Basic
import Phrasebook.Catalog.Collection
import Phrasebook.Proofs.Language.Code

/-! # Finding the catalog of a language

A collection keeps one catalog per normalized code, the one inserted last under it, with the
codes in ascending order (`Collection.Sound`). Looking a language up takes the catalog under its
normalized code; failing that, the one under its primary subtag; failing that, the one under the
least code with the same primary subtag (`Collection.FoundUnder`). The last tier follows the
order of the codes: the collection keeps no record of the order of the inserts, so of `pt_br`
and `pt_ao` inserted in that order, `pt` finds `pt_ao`.

A language is found exactly when some code shares its primary subtag, an insert is found again
by every spelling with the same normal form, and each code finds its own catalog, since a
normalized code is its own normal form.
-/

namespace Phrasebook.Collection

/-- The collection that inserting catalogs one after another builds from the empty one. -/
def ofInserts (ops : List (String × Catalog)) : Collection :=
  ops.foldl (fun s op => (s.insert op.1 op.2).2) {}

/-- The catalog of the last insert whose language has the normalized code `key`. -/
def lastInsert (ops : List (String × Catalog)) (key : String) : Option Catalog :=
  (ops.reverse.find? fun op => Language.normalize op.1 = key).map Prod.snd

/-- The code that a language is found under, among the codes of a collection: its normalized
code if that is one of them; else its primary subtag if that is one; else the least code with
the same primary subtag. -/
def FoundUnder (keys : List String) (language key : String) : Prop :=
  let n := Language.normalize language
  let p := Language.primary n
  (n ∈ keys ∧ key = n) ∨
  (n ∉ keys ∧ p ∈ keys ∧ key = p) ∨
  (n ∉ keys ∧ p ∉ keys ∧ key ∈ keys ∧ Language.primary key = p ∧
    ∀ k ∈ keys, Language.primary k = p → key ≤ k)

/-- What every collection that inserts build satisfies: its codes ascend strictly, and each is
its own normal form. -/
structure Sound (s : Collection) : Prop where
  ascending : s.languages.Pairwise (· < ·)
  normalized : ∀ k ∈ s.languages, Language.normalize k = k

variable {key k : String} {c : Catalog} {E : List (String × Catalog)}

/-! ## Entries ordered by code -/

theorem lookup_cons_ite {k' : String} {d : Catalog} {l : List (String × Catalog)} :
    ((k', d) :: l).lookup k = if k = k' then some d else l.lookup k := by
  by_cases h : k = k'
  · simp [h]
  · have hb : (k == k') = false := by simpa using h
    simp [List.lookup_cons, hb, h]

theorem lookup_place : (place key c E).lookup k = if k = key then some c else E.lookup k := by
  induction E with
  | nil => simp [place, lookup_cons_ite]
  | cons e rest ih =>
    obtain ⟨k', d⟩ := e
    unfold place
    split
    · simp [lookup_cons_ite]
    · split
      · rename_i hkk'
        subst hkk'
        by_cases hk : k = key <;> simp [lookup_cons_ite, hk]
      · rename_i hne
        by_cases hk : k = k'
        · subst hk
          simp [Ne.symm hne]
        · simp [lookup_cons_ite, hk, ih]

theorem mem_keys_place : k ∈ (place key c E).map Prod.fst ↔ k = key ∨ k ∈ E.map Prod.fst := by
  induction E with
  | nil => simp [place]
  | cons e rest ih =>
    obtain ⟨k', d⟩ := e
    unfold place
    split
    · simp
    · split
      · rename_i hkk'
        subst hkk'
        simp
      · simp only [List.map_cons, List.mem_cons, ih]
        exact or_left_comm

theorem mem_place {e : String × Catalog} (h : e ∈ place key c E) : e = (key, c) ∨ e ∈ E := by
  induction E with
  | nil => simpa [place] using h
  | cons x rest ih =>
    unfold place at h
    split at h
    · exact List.mem_cons.1 h
    · split at h
      · exact (List.mem_cons.1 h).imp_right (List.mem_cons_of_mem _)
      · rcases List.mem_cons.1 h with rfl | h
        · exact .inr List.mem_cons_self
        · exact (ih h).imp_right (List.mem_cons_of_mem _)

theorem place_ascending (h : (E.map Prod.fst).Pairwise (· < ·)) :
    ((place key c E).map Prod.fst).Pairwise (· < ·) := by
  induction E with
  | nil => simp [place]
  | cons e rest ih =>
    obtain ⟨k', d⟩ := e
    simp only [List.map_cons, List.pairwise_cons] at h
    unfold place
    split
    · rename_i hlt
      simp only [List.map_cons, List.pairwise_cons, List.mem_cons]
      exact ⟨fun x hx => hx.elim (· ▸ hlt) fun hx => hlt.trans (h.1 x hx), h.1, h.2⟩
    · split
      · rename_i hkk'
        subst hkk'
        simpa using h
      · -- the code goes after `k'`, which stays below everything
        rename_i hge hne
        have hlt : k' < key := lt_of_le_of_ne (not_lt.1 hge) (Ne.symm hne)
        simp only [List.map_cons, List.pairwise_cons]
        refine ⟨fun x hx => ?_, ih h.2⟩
        rcases mem_keys_place.1 hx with rfl | hx
        · exact hlt
        · exact h.1 x hx

theorem lookup_eq_some_of_mem (h : (E.map Prod.fst).Pairwise (· < ·)) (he : (k, c) ∈ E) :
    E.lookup k = some c := by
  induction E with
  | nil => simp at he
  | cons e rest ih =>
    obtain ⟨k', d⟩ := e
    simp only [List.map_cons, List.pairwise_cons] at h
    rcases List.mem_cons.1 he with he | he
    · simp [← he]
    · -- `k` comes after `k'`, so differs from it
      have hlt : k' < k := h.1 k (List.mem_map.2 ⟨_, he, rfl⟩)
      simp [lookup_cons_ite, ne_of_gt hlt, ih h.2 he]

theorem mem_of_lookup_eq_some (h : E.lookup k = some c) : (k, c) ∈ E := by
  obtain ⟨l₁, l₂, rfl, -⟩ := List.lookup_eq_some_iff.1 h
  simp

theorem mem_languages_of_lookup {s : Collection} (h : s.entries.lookup k = some c) :
    k ∈ s.languages :=
  List.mem_map.2 ⟨_, mem_of_lookup_eq_some h, rfl⟩

theorem lookup_eq_none_iff : E.lookup k = none ↔ k ∉ E.map Prod.fst := by
  rw [List.lookup_eq_none_iff]
  constructor
  · intro h hk
    obtain ⟨e, he, rfl⟩ := List.mem_map.1 hk
    simpa using h e he
  · exact fun h e he => bne_iff_ne.2 fun hke => h (hke ▸ List.mem_map.2 ⟨e, he, rfl⟩)

/-- In entries ordered by code, the first entry whose code has primary subtag `p` has the least
such code. -/
theorem find?_primary_eq_some_iff (h : (E.map Prod.fst).Pairwise (· < ·)) {p : String}
    {e : String × Catalog} :
    E.find? (fun e => Language.primary e.1 = p) = some e ↔
      e ∈ E ∧ Language.primary e.1 = p ∧
        ∀ k ∈ E.map Prod.fst, Language.primary k = p → e.1 ≤ k := by
  induction E with
  | nil => simp
  | cons x rest ih =>
    obtain ⟨k', d⟩ := x
    simp only [List.map_cons, List.pairwise_cons] at h
    by_cases hx : Language.primary k' = p
    · -- the head is found, and it has the least code of all
      rw [List.find?_cons_of_pos (by simpa using hx)]
      constructor
      · rintro ⟨⟩
        refine ⟨List.mem_cons_self, hx, fun k hk _ => ?_⟩
        rcases List.mem_cons.1 hk with rfl | hk
        · exact le_rfl
        · exact (h.1 k hk).le
      · rintro ⟨he, -, hle⟩
        rcases List.mem_cons.1 he with rfl | he
        · rfl
        · have hlt : k' < e.1 := h.1 e.1 (List.mem_map.2 ⟨e, he, rfl⟩)
          exact absurd (hle k' List.mem_cons_self hx) (not_le.2 hlt)
    · rw [List.find?_cons_of_neg (by simpa using hx), ih h.2]
      constructor
      · rintro ⟨he, hp, hle⟩
        refine ⟨List.mem_cons_of_mem _ he, hp, fun k hk hkp => ?_⟩
        rcases List.mem_cons.1 hk with rfl | hk
        · exact absurd hkp hx
        · exact hle k hk hkp
      · rintro ⟨he, hp, hle⟩
        rcases List.mem_cons.1 he with rfl | he
        · exact absurd hp hx
        · exact ⟨he, hp, fun k hk => hle k (List.mem_cons_of_mem _ hk)⟩

/-! ## Inserting -/

variable {s : Collection} {language : String}

theorem lookup_insert :
    (s.insert language c).2.entries.lookup k =
      if k = Language.normalize language then some c else s.entries.lookup k :=
  lookup_place

theorem mem_languages_insert :
    k ∈ (s.insert language c).2.languages ↔ k = Language.normalize language ∨ k ∈ s.languages :=
  mem_keys_place

theorem Sound.insert (hs : s.Sound) : (s.insert language c).2.Sound where
  ascending := place_ascending hs.ascending
  normalized := fun k hk => by
    rcases mem_languages_insert.1 hk with rfl | hk
    · exact Language.normalize_normalize language
    · exact hs.normalized k hk

theorem ofInserts_append_singleton (ops : List (String × Catalog)) (op : String × Catalog) :
    ofInserts (ops ++ [op]) = ((ofInserts ops).insert op.1 op.2).2 := by
  simp [ofInserts]

theorem lastInsert_append_singleton (ops : List (String × Catalog)) (op : String × Catalog) :
    lastInsert (ops ++ [op]) k =
      if Language.normalize op.1 = k then some op.2 else lastInsert ops k := by
  by_cases h : Language.normalize op.1 = k <;> simp [lastInsert, h]

theorem sound_ofInserts (ops : List (String × Catalog)) : (ofInserts ops).Sound := by
  induction ops using List.reverseRecOn with
  | nil => exact ⟨by simp [ofInserts, languages], by simp [ofInserts, languages]⟩
  | append_singleton ops op ih =>
    rw [ofInserts_append_singleton]
    exact ih.insert

/-- Each code holds the catalog of the last insert under it. -/
theorem lookup_ofInserts (ops : List (String × Catalog)) (k : String) :
    (ofInserts ops).entries.lookup k = lastInsert ops k := by
  induction ops using List.reverseRecOn with
  | nil => simp [ofInserts, lastInsert]
  | append_singleton ops op ih =>
    rw [ofInserts_append_singleton, lookup_insert, lastInsert_append_singleton, ih]
    by_cases h : k = Language.normalize op.1
    · simp [h]
    · simp [h, Ne.symm h]

/-- The codes are the normalized codes of the inserted languages. -/
theorem mem_languages_ofInserts (ops : List (String × Catalog)) (k : String) :
    k ∈ (ofInserts ops).languages ↔ ∃ op ∈ ops, Language.normalize op.1 = k := by
  induction ops using List.reverseRecOn with
  | nil => simp [ofInserts, languages]
  | append_singleton ops op ih =>
    rw [ofInserts_append_singleton, mem_languages_insert, ih]
    simp only [List.mem_append, List.mem_singleton]
    constructor
    · rintro (rfl | ⟨o, ho, hk⟩)
      · exact ⟨op, .inr rfl, rfl⟩
      · exact ⟨o, .inl ho, hk⟩
    · rintro ⟨o, ho | rfl, hk⟩
      · exact .inr ⟨o, ho, hk⟩
      · exact .inl hk.symm

/-! ## Looking a language up -/

/-- What a lookup finds is one of the collection's catalogs. -/
theorem mem_entries_of_get? {s : Collection} {language : String} (h : s.get? language = some c) :
    ∃ e ∈ s.entries, e.2 = c := by
  simp only [get?] at h
  split at h
  · exact ⟨_, mem_of_lookup_eq_some ‹_›, Option.some.inj h⟩
  · split at h
    · exact ⟨_, mem_of_lookup_eq_some ‹_›, Option.some.inj h⟩
    · obtain ⟨e, he, rfl⟩ := Option.map_eq_some_iff.1 h
      exact ⟨e, List.mem_of_find?_eq_some he, rfl⟩

/-- The lookup in three tiers, against the codes as a set: the normalized code, the primary
subtag, then the least code with the same primary subtag. -/
theorem get?_eq_some_iff (hs : s.Sound) :
    s.get? language = some c ↔
      ∃ key, FoundUnder s.languages language key ∧ s.entries.lookup key = some c := by
  have hasc : (s.entries.map Prod.fst).Pairwise (· < ·) := hs.ascending
  unfold get?
  simp only [FoundUnder]
  generalize Language.normalize language = n
  cases hn : s.entries.lookup n with
  | some c₀ =>
    -- the normalized code is a code: no other tier is tried
    have hmem : n ∈ s.languages := mem_languages_of_lookup hn
    simp only [Option.some.injEq]
    constructor
    · rintro rfl
      exact ⟨n, .inl ⟨hmem, rfl⟩, hn⟩
    · rintro ⟨key, ⟨-, rfl⟩ | ⟨hn', -⟩ | ⟨hn', -⟩, hkey⟩
      · exact Option.some.inj (hn.symm.trans hkey)
      · exact absurd hmem hn'
      · exact absurd hmem hn'
  | none =>
    have hnot : n ∉ s.languages := lookup_eq_none_iff.1 hn
    cases hp : s.entries.lookup (Language.primary n) with
    | some c₁ =>
      have hmem : Language.primary n ∈ s.languages := mem_languages_of_lookup hp
      simp only [Option.some.injEq]
      constructor
      · rintro rfl
        exact ⟨_, .inr (.inl ⟨hnot, hmem, rfl⟩), hp⟩
      · rintro ⟨key, ⟨h, -⟩ | ⟨-, -, rfl⟩ | ⟨-, h, -⟩, hkey⟩
        · exact absurd h hnot
        · exact Option.some.inj (hp.symm.trans hkey)
        · exact absurd hmem h
    | none =>
      have hpnot : Language.primary n ∉ s.languages := lookup_eq_none_iff.1 hp
      simp only [hnot, hpnot, false_and, and_false, false_or, not_false_eq_true, true_and]
      constructor
      · intro hf
        obtain ⟨e, he, rfl⟩ := Option.map_eq_some_iff.1 hf
        obtain ⟨hmem, hprim, hleast⟩ := (find?_primary_eq_some_iff hasc).1 he
        exact ⟨e.1, ⟨List.mem_map.2 ⟨e, hmem, rfl⟩, hprim, hleast⟩,
          lookup_eq_some_of_mem hasc hmem⟩
      · rintro ⟨key, ⟨hkey, hprim, hleast⟩, hlook⟩
        -- the least code with that primary subtag is the entry found first
        have hfound := (find?_primary_eq_some_iff hasc).2
          ⟨mem_of_lookup_eq_some hlook, hprim, hleast⟩
        simp [hfound]

theorem get?_isSome_iff (hs : s.Sound) :
    (s.get? language).isSome ↔
      ∃ k ∈ s.languages, Language.primary k = Language.primary (Language.normalize language) := by
  constructor
  · intro h
    obtain ⟨c, hc⟩ := Option.isSome_iff_exists.1 h
    obtain ⟨key, hkey, hlook⟩ := (get?_eq_some_iff hs).1 hc
    refine ⟨key, mem_languages_of_lookup hlook, ?_⟩
    rcases hkey with ⟨-, rfl⟩ | ⟨-, -, rfl⟩ | ⟨-, -, -, hprim, -⟩
    · rfl
    · exact Language.primary_primary _
    · exact hprim
  · rintro ⟨k, hk, hprim⟩
    -- a code with that primary subtag exists, so the last tier finds one
    simp only [get?]
    split
    · rfl
    · split
      · rfl
      · have hex : (s.entries.find? fun e =>
            Language.primary e.1 = Language.primary (Language.normalize language)).isSome := by
          obtain ⟨e, he, rfl⟩ := List.mem_map.1 hk
          exact List.find?_isSome.2 ⟨e, he, by simpa using hprim⟩
        simpa using hex

/-- After an insert, every spelling of the language with the same normal form finds it. -/
theorem get?_insert_of_normalize_eq {language' : String}
    (h : Language.normalize language' = Language.normalize language) :
    (s.insert language c).2.get? language' = some c := by
  simp only [get?, lookup_insert, h, if_true]

/-- A code finds the catalog under it. -/
theorem get?_of_mem_languages (hs : s.Sound) (hk : k ∈ s.languages) :
    s.get? k = s.entries.lookup k := by
  have hnorm := hs.normalized k hk
  obtain ⟨e, he, rfl⟩ := List.mem_map.1 hk
  simp only [get?, hnorm, lookup_eq_some_of_mem hs.ascending he]

/-- Looking a language up in a collection built by inserts: its codes are the normalized codes of
the inserted languages, ascending, each holding the catalog of the last insert under it; a
language finds the catalog under its normalized code, else under its primary subtag, else under
the least code with the same primary subtag, and nothing when no code shares its primary subtag.
An insert is found by every spelling with the same normal form, and every code finds its own
catalog. -/
theorem get?_ofInserts (ops : List (String × Catalog)) (language : String) :
    (∀ k, k ∈ (ofInserts ops).languages ↔ ∃ op ∈ ops, Language.normalize op.1 = k) ∧
    (ofInserts ops).languages.Pairwise (· < ·) ∧
    (∀ k, (ofInserts ops).entries.lookup k = lastInsert ops k) ∧
    (∀ c, (ofInserts ops).get? language = some c ↔
      ∃ key, FoundUnder (ofInserts ops).languages language key ∧ lastInsert ops key = some c) ∧
    (((ofInserts ops).get? language).isSome ↔
      ∃ k ∈ (ofInserts ops).languages,
        Language.primary k = Language.primary (Language.normalize language)) ∧
    (∀ language' c, Language.normalize language' = Language.normalize language →
      (ofInserts (ops ++ [(language, c)])).get? language' = some c) ∧
    (∀ k ∈ (ofInserts ops).languages, (ofInserts ops).get? k = lastInsert ops k) := by
  have hs := sound_ofInserts ops
  refine ⟨mem_languages_ofInserts ops, hs.ascending, lookup_ofInserts ops, fun c => ?_,
    get?_isSome_iff hs, fun language' c h => ?_, fun k hk => ?_⟩
  · simpa only [lookup_ofInserts] using
      (get?_eq_some_iff hs : (ofInserts ops).get? language = some c ↔ _)
  · rw [ofInserts_append_singleton]
    exact get?_insert_of_normalize_eq h
  · rw [get?_of_mem_languages hs hk, lookup_ofInserts]

/-- Of `pt_BR` and then `pt_AO`, a bare `pt` finds the one with the least code, `pt_ao`, and not
the one inserted first. -/
theorem get?_least_code_not_first_insert :
    ((ofInserts [("pt_BR", Catalog.empty "pt_BR"), ("pt_AO", Catalog.empty "pt_AO")]).get?
      "pt").bind Catalog.language = some "pt_AO" := by
  decide +kernel

end Phrasebook.Collection
