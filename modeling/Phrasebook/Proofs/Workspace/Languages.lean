import Phrasebook.Workspace.Index
import Phrasebook.Proofs.Catalog.Collection
import Phrasebook.Proofs.Catalog.Index

/-! # The catalog of each language in a workspace

A workspace's collection takes its documents in path order. A document without a language, or
whose entries repeat, gives nothing; the codes of the collection are the normalized codes of the
other documents' languages.

Which document a code keeps is decided by the spelling of the language. A document is skipped
when the catalog already under its code has a language spelled exactly as its own, and
otherwise replaces it. So among the documents of one code, the one kept starts the last stretch
of documents spelled alike (`Indexer.StartsLastRun`): when they all spell the language alike,
that is the first, but `pt_BR` followed by `pt-BR` keeps the second.

The proof follows the fold over the documents. One document either changes nothing or inserts
its catalog (`takeDocument_cases`); the skip test, made through a lookup with fallbacks, comes
down to the catalog under the document's own code, since every catalog sits under the code of
its own language (`Keyed`).
-/

namespace Phrasebook.Indexer

/-- The spelling of a document's language with the catalog the document makes, when it names a
language and makes one. -/
def catalogOf? (d : Document) : Option (String × Catalog) :=
  match d.language, Catalog.ofDocument d with
  | some l, .ok c => some (l, c)
  | _, _ => none

/-- Of the documents, in order, those whose language has the normalized code `key` and that make
a catalog, each as the spelling of its language with its catalog. -/
def madeUnder (key : String) (docs : List (String × Document)) : List (String × Catalog) :=
  docs.filterMap fun x => (catalogOf? x.2).filter fun y => Language.normalize y.1 = key

/-- `x` starts the last stretch of `A` spelled alike: everything after it spells the language as
it does, and the entry right before it, if any, does not. -/
def StartsLastRun (A : List (String × Catalog)) (x : String × Catalog) : Prop :=
  ∃ pre post, A = pre ++ x :: post ∧ (∀ y ∈ post, y.1 = x.1) ∧ ∀ y ∈ pre.getLast?, y.1 ≠ x.1

/-- What taking one more document does to the collection. -/
def takeDocument (set : Collection) (d : Document) : Collection :=
  match d.language with
  | none => set
  | some lang =>
    if (set.get? lang).any (·.language == some lang) then set
    else match Catalog.ofDocument d with
      | .ok c => (set.insert lang c).2
      | .error _ => set

/-- The collection of documents taken in order. -/
def collectionOf (docs : List (String × Document)) : Collection :=
  docs.foldl (fun set x => takeDocument set x.2) {}

theorem catalogs_eq_collectionOf (ix : Indexer) : ix.catalogs = collectionOf ix.documents := rfl

theorem collectionOf_append_singleton (docs : List (String × Document)) (x : String × Document) :
    collectionOf (docs ++ [x]) = takeDocument (collectionOf docs) x.2 := by
  simp [collectionOf]

theorem catalogOf?_eq_some_iff {d : Document} {l : String} {c : Catalog} :
    catalogOf? d = some (l, c) ↔ d.language = some l ∧ Catalog.ofDocument d = .ok c := by
  unfold catalogOf?
  cases d.language <;> cases Catalog.ofDocument d <;> simp

theorem ofDocument_language {d : Document} {c : Catalog} (h : Catalog.ofDocument d = .ok c) :
    c.language = d.language := by
  rw [Catalog.language, (Catalog.ofDocument_document h).1]

theorem catalogOf?_language {d : Document} {l : String} {c : Catalog}
    (h : catalogOf? d = some (l, c)) : c.language = some l := by
  obtain ⟨hl, hc⟩ := catalogOf?_eq_some_iff.1 h
  rw [ofDocument_language hc, hl]

theorem madeUnder_append_made {key l : String} {c : Catalog} {docs : List (String × Document)}
    {x : String × Document} (hmade : catalogOf? x.2 = some (l, c)) :
    madeUnder key (docs ++ [x]) =
      if Language.normalize l = key then madeUnder key docs ++ [(l, c)] else madeUnder key docs := by
  simp only [madeUnder, List.filterMap_append, List.filterMap_cons, List.filterMap_nil, hmade,
    Option.filter_some]
  by_cases hkey : Language.normalize l = key <;> simp [hkey]

theorem madeUnder_append_none {key : String} {docs : List (String × Document)}
    {x : String × Document} (hnone : catalogOf? x.2 = none) :
    madeUnder key (docs ++ [x]) = madeUnder key docs := by
  simp [madeUnder, hnone]

theorem mem_madeUnder_language {key : String} {docs : List (String × Document)}
    {y : String × Catalog} (hy : y ∈ madeUnder key docs) :
    y.2.language = some y.1 ∧ Language.normalize y.1 = key := by
  obtain ⟨x, -, hx⟩ := List.mem_filterMap.1 hy
  obtain ⟨hmade, hkey⟩ := Option.filter_eq_some_iff.1 hx
  exact ⟨catalogOf?_language hmade, by simpa using hkey⟩

theorem madeUnder_ne_nil_iff {key : String} {docs : List (String × Document)} :
    madeUnder key docs ≠ [] ↔
      ∃ x ∈ docs, ∃ l c, x.2.language = some l ∧ Language.normalize l = key ∧
        Catalog.ofDocument x.2 = .ok c := by
  rw [Ne, madeUnder, List.filterMap_eq_nil_iff]
  simp only [not_forall, exists_prop]
  constructor
  · rintro ⟨x, hx, hsome⟩
    obtain ⟨⟨l, c⟩, hy⟩ := Option.ne_none_iff_exists'.1 hsome
    obtain ⟨hmade, hkey⟩ := Option.filter_eq_some_iff.1 hy
    obtain ⟨hl, hc⟩ := catalogOf?_eq_some_iff.1 hmade
    exact ⟨x, hx, l, c, hl, by simpa using hkey, hc⟩
  · rintro ⟨x, hx, l, c, hl, hkey, hc⟩
    refine ⟨x, hx, ?_⟩
    rw [catalogOf?_eq_some_iff.2 ⟨hl, hc⟩]
    simp [hkey]

/-! ## One document -/

/-- Every catalog of the collection sits under the normalized code of its own language. -/
def Keyed (set : Collection) : Prop :=
  ∀ e ∈ set.entries, ∃ l, e.2.language = some l ∧ Language.normalize l = e.1

theorem Keyed.insert {set : Collection} (hset : Keyed set) {l : String} {c : Catalog}
    (hc : c.language = some l) : Keyed (set.insert l c).2 := by
  intro e he
  rcases Collection.mem_place he with rfl | he
  · exact ⟨l, hc, rfl⟩
  · exact hset e he

theorem lookup_any_language {o : Option Catalog} {l : String}
    (h : o.any (·.language == some l) = true) : ∃ c, o = some c ∧ c.language = some l := by
  obtain ⟨c, rfl, hc⟩ := (Option.any_eq_true _ _).1 h
  exact ⟨c, rfl, by simpa using hc⟩

/-- The skip test finds the language with that spelling only under its own code: a catalog that
the fallbacks reach sits under another code, so its language is spelled otherwise. -/
theorem skip_iff {set : Collection} (hset : Keyed set) (lang : String) :
    (set.get? lang).any (·.language == some lang) =
      (set.entries.lookup (Language.normalize lang)).any (·.language == some lang) := by
  cases hn : set.entries.lookup (Language.normalize lang) with
  | some c =>
    have hget : set.get? lang = some c := by simp only [Collection.get?, hn]
    rw [hget]
  | none =>
    cases hget : set.get? lang with
    | none => rfl
    | some c' =>
      obtain ⟨e, he, rfl⟩ := Collection.mem_entries_of_get? hget
      obtain ⟨l, hl, hkey⟩ := hset e he
      simp only [Option.any_some, hl]
      -- the same spelling would put the catalog under the language's own code
      refine beq_eq_false_iff_ne.2 fun heq => ?_
      cases Option.some.inj heq
      have hmem : e.1 ∈ set.languages := List.mem_map.2 ⟨e, he, rfl⟩
      exact absurd (hkey ▸ hmem) (Collection.lookup_eq_none_iff.1 hn)

/-- One document changes nothing, is skipped because its spelling is already there, or inserts
its catalog. -/
theorem takeDocument_cases {set : Collection} (hset : Keyed set) (d : Document) :
    (catalogOf? d = none ∧ takeDocument set d = set) ∨
    (∃ l c, catalogOf? d = some (l, c) ∧
      (set.entries.lookup (Language.normalize l)).any (·.language == some l) = true ∧
      takeDocument set d = set) ∨
    (∃ l c, catalogOf? d = some (l, c) ∧
      (set.entries.lookup (Language.normalize l)).any (·.language == some l) = false ∧
      takeDocument set d = (set.insert l c).2) := by
  cases hl : d.language with
  | none => exact .inl ⟨by simp [catalogOf?, hl], by simp [takeDocument, hl]⟩
  | some l =>
    have htake : takeDocument set d =
        if (set.entries.lookup (Language.normalize l)).any (·.language == some l) then set
        else match Catalog.ofDocument d with
          | .ok c => (set.insert l c).2
          | .error _ => set := by
      simp only [takeDocument, hl, skip_iff hset]
    cases hc : Catalog.ofDocument d with
    | error e =>
      refine .inl ⟨by simp [catalogOf?, hl, hc], ?_⟩
      rw [htake]
      split <;> simp [hc]
    | ok c =>
      have hmade : catalogOf? d = some (l, c) := by simp [catalogOf?, hl, hc]
      cases hskip : (set.entries.lookup (Language.normalize l)).any (·.language == some l) with
      | true => exact .inr (.inl ⟨l, c, hmade, hskip, by rw [htake, hskip]; rfl⟩)
      | false => exact .inr (.inr ⟨l, c, hmade, hskip, by rw [htake, hskip]; simp [hc]⟩)

/-! ## Stretches spelled alike -/

theorem StartsLastRun.snoc_same {A : List (String × Catalog)} {x y : String × Catalog}
    (h : StartsLastRun A x) (hy : y.1 = x.1) : StartsLastRun (A ++ [y]) x := by
  obtain ⟨pre, post, rfl, hpost, hpre⟩ := h
  refine ⟨pre, post ++ [y], by simp, fun z hz => ?_, hpre⟩
  rcases List.mem_append.1 hz with hz | hz
  · exact hpost z hz
  · rw [List.mem_singleton.1 hz, hy]

theorem StartsLastRun.snoc_new {A : List (String × Catalog)} {y : String × Catalog}
    (h : ∀ z ∈ A.getLast?, z.1 ≠ y.1) : StartsLastRun (A ++ [y]) y :=
  ⟨A, [], rfl, by simp, h⟩

theorem StartsLastRun.mem {A : List (String × Catalog)} {x : String × Catalog}
    (h : StartsLastRun A x) : x ∈ A := by
  obtain ⟨pre, post, rfl, -, -⟩ := h
  simp

/-- The last entry spells the language as the start of the last stretch. -/
theorem StartsLastRun.getLast {A : List (String × Catalog)} {x : String × Catalog}
    (h : StartsLastRun A x) : ∀ z ∈ A.getLast?, z.1 = x.1 := by
  obtain ⟨pre, post, rfl, hpost, -⟩ := h
  intro z hz
  rw [List.getLast?_append, List.getLast?_eq_some_getLast (List.cons_ne_nil x post),
    Option.some_or] at hz
  have hmem : z ∈ x :: post := Option.some.inj hz ▸ List.getLast_mem _
  rcases List.mem_cons.1 hmem with rfl | hz'
  · rfl
  · exact hpost z hz'

/-- When all entries spell the language alike, the last stretch starts with the first. -/
theorem StartsLastRun.eq_head {A : List (String × Catalog)} {x h : String × Catalog}
    (hx : StartsLastRun A x) (hh : h ∈ A.head?) (halike : ∀ y ∈ A, y.1 = h.1) : x = h := by
  obtain ⟨pre, post, rfl, -, hpre⟩ := hx
  cases pre with
  | nil => simpa using hh
  | cons p ps =>
    -- an entry before `x` would spell the language as `x` does
    exfalso
    apply hpre _ (List.getLast?_eq_some_getLast (List.cons_ne_nil p ps))
    rw [halike _ (List.mem_append_left _ (List.getLast_mem _)),
      halike x (List.mem_append_right _ List.mem_cons_self)]

/-! ## All the documents -/

/-- What the collection holds after some documents: each catalog under the code of its own
language; nothing under a code that no document makes; and under a code that documents make,
the catalog of the one that starts the last stretch of them spelled alike. -/
structure Holds (set : Collection) (docs : List (String × Document)) : Prop where
  keyed : Keyed set
  none_iff : ∀ key, set.entries.lookup key = none ↔ madeUnder key docs = []
  starts : ∀ key c, set.entries.lookup key = some c →
    ∃ l, StartsLastRun (madeUnder key docs) (l, c)

theorem holds_nil : Holds {} [] where
  keyed := by simp [Keyed]
  none_iff := by simp [madeUnder]
  starts := by simp

/-- The catalog under a code spells its language as the last document made under that code. -/
theorem Holds.last_spelling {set : Collection} {docs : List (String × Document)}
    (h : Holds set docs) {key : String} {c₀ : Catalog} (hc₀ : set.entries.lookup key = some c₀) :
    ∀ z ∈ (madeUnder key docs).getLast?, c₀.language = some z.1 := by
  intro z hz
  obtain ⟨l₀, hl₀⟩ := h.starts key c₀ hc₀
  rw [hl₀.getLast z hz]
  exact (mem_madeUnder_language hl₀.mem).1

/-- A document that makes no catalog changes nothing. -/
theorem Holds.of_none {set : Collection} {docs : List (String × Document)} (h : Holds set docs)
    {x : String × Document} (hnone : catalogOf? x.2 = none) : Holds set (docs ++ [x]) := by
  have hsame : ∀ key, madeUnder key (docs ++ [x]) = madeUnder key docs :=
    fun _ => madeUnder_append_none hnone
  exact ⟨h.keyed, fun key => hsame key ▸ h.none_iff key,
    fun key c' hc' => hsame key ▸ h.starts key c' hc'⟩

/-- A skipped document spells the language as the catalog kept, so it extends the last stretch. -/
theorem Holds.of_skip {set : Collection} {docs : List (String × Document)} (h : Holds set docs)
    {x : String × Document} {l : String} {c : Catalog} (hmade : catalogOf? x.2 = some (l, c))
    (hskip : (set.entries.lookup (Language.normalize l)).any (·.language == some l) = true) :
    Holds set (docs ++ [x]) := by
  obtain ⟨c₀, hc₀, hspell⟩ := lookup_any_language hskip
  refine ⟨h.keyed, fun key => ?_, fun key c' hc' => ?_⟩ <;> rw [madeUnder_append_made hmade]
  · split
    · rename_i hkey
      subst hkey
      simp [hc₀]
    · exact h.none_iff key
  · split
    · rename_i hkey
      subst hkey
      rw [hc₀] at hc'
      cases hc'
      obtain ⟨l₀, hl₀⟩ := h.starts _ c₀ hc₀
      have hl₀l : l₀ = l := by
        have := (mem_madeUnder_language hl₀.mem).1
        rw [hspell] at this
        exact (Option.some.inj this).symm
      subst hl₀l
      exact ⟨l₀, hl₀.snoc_same rfl⟩
    · exact h.starts key c' hc'

/-- An inserted document starts a new stretch under its code: the last document before it under
that code spelled the language otherwise. -/
theorem Holds.of_insert {set : Collection} {docs : List (String × Document)} (h : Holds set docs)
    {x : String × Document} {l : String} {c : Catalog} (hmade : catalogOf? x.2 = some (l, c))
    (hskip : (set.entries.lookup (Language.normalize l)).any (·.language == some l) = false) :
    Holds (set.insert l c).2 (docs ++ [x]) := by
  refine ⟨h.keyed.insert (catalogOf?_language hmade), fun key => ?_, fun key c' hc' => ?_⟩
  · rw [Collection.lookup_insert, madeUnder_append_made hmade]
    by_cases hkey : key = Language.normalize l
    · subst hkey
      simp
    · simpa [hkey, Ne.symm hkey] using h.none_iff key
  · rw [Collection.lookup_insert] at hc'
    rw [madeUnder_append_made hmade]
    by_cases hkey : key = Language.normalize l
    · subst hkey
      simp only [if_true, Option.some.injEq] at hc'
      subst hc'
      simp only [if_true]
      refine ⟨l, StartsLastRun.snoc_new fun z hz => ?_⟩
      cases hc₀ : set.entries.lookup (Language.normalize l) with
      | none =>
        rw [(h.none_iff _).1 hc₀] at hz
        simp at hz
      | some c₀ =>
        have hspell := h.last_spelling hc₀ z hz
        rw [hc₀] at hskip
        rintro rfl
        simp [hspell] at hskip
    · simp only [hkey, if_false] at hc'
      simpa [Ne.symm hkey] using h.starts key c' hc'

/-- Taking one more document keeps what the collection holds in step with the documents. -/
theorem Holds.take {set : Collection} {docs : List (String × Document)} (h : Holds set docs)
    (x : String × Document) : Holds (takeDocument set x.2) (docs ++ [x]) := by
  rcases takeDocument_cases h.keyed x.2 with ⟨hnone, hset⟩ | ⟨l, c, hmade, hskip, hset⟩ |
    ⟨l, c, hmade, hskip, hset⟩
  · rw [hset]
    exact h.of_none hnone
  · rw [hset]
    exact h.of_skip hmade hskip
  · rw [hset]
    exact h.of_insert hmade hskip

theorem holds_collectionOf (docs : List (String × Document)) : Holds (collectionOf docs) docs := by
  induction docs using List.reverseRecOn with
  | nil => exact holds_nil
  | append_singleton docs x ih =>
    rw [collectionOf_append_singleton]
    exact ih.take x

/-- The collection of a workspace has a code for each normalized code of a document's language
whose document makes a catalog, and no other. Under each code it holds the catalog of the
document that starts the last stretch, in path order, of the documents of that code spelled
alike; so the first, when they all spell the language alike. -/
theorem catalogs_by_spelling (ix : Indexer) (key : String) :
    (key ∈ ix.catalogs.languages ↔
      ∃ x ∈ ix.documents, ∃ l c, x.2.language = some l ∧ Language.normalize l = key ∧
        Catalog.ofDocument x.2 = .ok c) ∧
    (∀ c, ix.catalogs.entries.lookup key = some c →
      ∃ l, StartsLastRun (madeUnder key ix.documents) (l, c)) ∧
    (∀ h ∈ (madeUnder key ix.documents).head?,
      (∀ y ∈ madeUnder key ix.documents, y.1 = h.1) → ix.catalogs.entries.lookup key = some h.2) := by
  have hold := holds_collectionOf ix.documents
  rw [catalogs_eq_collectionOf]
  refine ⟨?_, hold.starts key, fun h hh halike => ?_⟩
  · rw [← madeUnder_ne_nil_iff, Ne, ← hold.none_iff key, Collection.lookup_eq_none_iff, not_not]
    rfl
  · cases hlook : (collectionOf ix.documents).entries.lookup key with
    | none =>
      rw [(hold.none_iff key).1 hlook] at hh
      simp at hh
    | some c =>
      obtain ⟨l, hl⟩ := hold.starts key c hlook
      rw [← hl.eq_head hh halike]

/-- `pt_BR` and then `pt-BR`: the second document spells the language otherwise, so it takes the
place of the first under `pt_br`. -/
theorem catalogs_later_spelling_replaces :
    (({ documents := [("a.ts", { language := some "pt_BR" }),
        ("b.ts", { language := some "pt-BR" })] } : Indexer).catalogs.entries.lookup
      "pt_br").bind Catalog.language = some "pt-BR" := by
  decide +kernel

end Phrasebook.Indexer
