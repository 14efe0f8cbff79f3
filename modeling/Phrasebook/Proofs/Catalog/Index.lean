import Mathlib.Data.List.Nodup
import Phrasebook.Catalog.Basic
import Phrasebook.Proofs.Document.Canonical

/-! # The catalog index

A document becomes a catalog unless two of its entries have the same key: the name of their
context, their source text and their disambiguation. Contexts count by name, so entries of two
separate contexts of one name compete. When a key repeats, the error names the first entry, in
the order of the file, whose key repeats an earlier one (`firstRepeat_eq_some_iff`).

The index is built in one walk over the contexts and their entries. Two facts carry it. While
the walk goes on, the disambiguations with a slot under a context name and a source text are
those of the keys read so far (`SlotsHold`), so the walk stops exactly at the first repeated key
(`Catalog.ofDocument_eq_error`). When it ends, the slots under a context name and a source text
are those of the document's entries with that name and source, in the order of the file
(`Catalog.ofDocument_slots`). A lookup reads the index and then the document at the slot it
finds, and so finds exactly the entry with the key asked for (`Catalog.get?_eq_some_iff`).
-/

namespace Phrasebook

/-! ## The first repeated key -/

/-- The first key of a list that was seen before it: among the keys `seen`, or earlier in the
list. -/
def firstRepeat (seen : List EntryKey) : List EntryKey → Option EntryKey
  | [] => none
  | k :: ks => if seen.contains k then some k else firstRepeat (k :: seen) ks

section Seen

variable {α : Type} {k x : α} {seen l : List α}

/-- A key moved from the rest of the list to the keys seen. -/
theorem forall_not_mem_cons_seen : (∀ x ∈ l, x ∉ k :: seen) ↔ k ∉ l ∧ ∀ x ∈ l, x ∉ seen := by
  simp only [List.mem_cons, not_or]
  exact ⟨fun h => ⟨fun hk => (h k hk).1 rfl, fun x hx => (h x hx).2⟩,
    fun ⟨hk, h⟩ x hx => ⟨fun hxk => hk (hxk ▸ hx), h x hx⟩⟩

theorem mem_cons_seen_or_mem : k ∈ x :: seen ∨ k ∈ l ↔ k ∈ seen ∨ k ∈ x :: l := by
  simp only [List.mem_cons]
  exact or_assoc.trans or_left_comm

end Seen

theorem firstRepeat_eq_none_iff (seen ks : List EntryKey) :
    firstRepeat seen ks = none ↔ ks.Nodup ∧ ∀ k ∈ ks, k ∉ seen := by
  induction ks generalizing seen with
  | nil => simp [firstRepeat]
  | cons k ks ih =>
    by_cases hk : k ∈ seen
    · simp [firstRepeat, hk]
    · rw [firstRepeat, if_neg (by simpa using hk), ih, forall_not_mem_cons_seen, List.nodup_cons,
        List.forall_mem_cons]
      exact ⟨fun ⟨hnd, hnot, hfresh⟩ => ⟨⟨hnot, hnd⟩, hk, hfresh⟩,
        fun ⟨⟨hnot, hnd⟩, _, hfresh⟩ => ⟨hnd, hnot, hfresh⟩⟩

theorem firstRepeat_nil_of_nodup {ks : List EntryKey} (h : ks.Nodup) : firstRepeat [] ks = none :=
  (firstRepeat_eq_none_iff [] ks).2 ⟨h, fun _ _ => List.not_mem_nil⟩

/-- The key reported is the first one that was seen before or repeats an earlier key. -/
theorem firstRepeat_eq_some_iff (seen ks : List EntryKey) (k : EntryKey) :
    firstRepeat seen ks = some k ↔
      ∃ pre post, ks = pre ++ k :: post ∧ pre.Nodup ∧ (∀ x ∈ pre, x ∉ seen) ∧ (k ∈ seen ∨ k ∈ pre) := by
  induction ks generalizing seen with
  | nil => simp [firstRepeat]
  | cons x ks ih =>
    by_cases hx : x ∈ seen
    · -- the first key was seen: it is the one reported
      rw [firstRepeat, if_pos (by simpa using hx), Option.some.injEq]
      constructor
      · rintro rfl
        exact ⟨[], ks, rfl, List.nodup_nil, by simp, .inl hx⟩
      · rintro ⟨pre, post, hsplit, -, hfresh, hk⟩
        cases pre with
        | nil => exact (List.cons.inj hsplit).1
        | cons y pre =>
          obtain ⟨rfl, -⟩ := List.cons.inj hsplit
          exact absurd hx (hfresh x List.mem_cons_self)
    · rw [firstRepeat, if_neg (by simpa using hx), ih]
      constructor
      · rintro ⟨pre, post, rfl, hnd, hfresh, hk⟩
        obtain ⟨hnotin, hfresh'⟩ := forall_not_mem_cons_seen.1 hfresh
        exact ⟨x :: pre, post, rfl, List.nodup_cons.2 ⟨hnotin, hnd⟩, List.forall_mem_cons.2 ⟨hx, hfresh'⟩,
          mem_cons_seen_or_mem.1 hk⟩
      · rintro ⟨pre, post, hsplit, hnd, hfresh, hk⟩
        cases pre with
        | nil =>
          obtain ⟨rfl, -⟩ := List.cons.inj hsplit
          simp [hx] at hk
        | cons y pre =>
          obtain ⟨rfl, rfl⟩ := List.cons.inj hsplit
          obtain ⟨hnotin, hnd⟩ := List.nodup_cons.1 hnd
          have hfresh' : ∀ z ∈ pre, z ∉ seen := fun z hz => hfresh z (List.mem_cons_of_mem _ hz)
          exact ⟨pre, post, rfl, hnd, forall_not_mem_cons_seen.2 ⟨hnotin, hfresh'⟩, mem_cons_seen_or_mem.2 hk⟩


/-- The first repeat of two lists one after the other: the first list's, or else the second
list's with the keys of the first seen. -/
theorem firstRepeat_append (seen ks ks' : List EntryKey) :
    firstRepeat seen (ks ++ ks') = (firstRepeat seen ks).or (firstRepeat (ks.reverse ++ seen) ks') := by
  induction ks generalizing seen with
  | nil => rfl
  | cons k ks ih =>
    by_cases hk : k ∈ seen
    · simp [firstRepeat, hk]
    · simp [firstRepeat, hk, ih]

/-! ## Tables of pairs -/

theorem lookup_cons_ite {α : Type} (k k' : String) (v : α) (t : List (String × α)) :
    ((k, v) :: t).lookup k' = if k' = k then some v else t.lookup k' := by
  rw [List.lookup_cons]
  split <;> simp_all

@[simp] theorem lookup_putKey {α : Type} (k k' : String) (v : α) (t : List (String × α)) :
    (putKey k v t).lookup k' = if k' = k then some v else t.lookup k' := by
  induction t with
  | nil => simp [putKey, lookup_cons_ite]
  | cons p rest ih =>
    obtain ⟨k'', v''⟩ := p
    by_cases h : k'' = k
    · subst h
      by_cases h' : k' = k'' <;> simp [putKey, lookup_cons_ite, h']
    · by_cases h' : k' = k''
      · subst h'
        simp [putKey, h]
      · simp [putKey, lookup_cons_ite, h, h', ih]

/-! ## The slots of an index and of a document -/

/-- The slots of an index under a context name and a source text; none when either has no pair. -/
def Index.slots (index : Index) (n s : String) : List Slot :=
  (((index.lookup n).getD []).lookup s).getD []

/-- The slots that entries, paired with their positions in the context at position `ci`, take
under a source text. -/
def entrySlots (ci : Nat) (s : String) (es : List (Entry × Nat)) : List Slot :=
  es.filterMap fun (e, mi) => if e.source = s then some ⟨e.disambiguation, ci, mi⟩ else none

/-- The slots that contexts, paired with their positions, give under a context name and a source
text. -/
def contextSlots (n s : String) (cs : List (Context × Nat)) : List Slot :=
  cs.flatMap fun (x, ci) => if x.name = n then entrySlots ci s x.entries.zipIdx else []

namespace Document

/-- The slots of a document's entries under a context name and a source text, in the order of the
file. -/
def slots (d : Document) (n s : String) : List Slot :=
  contextSlots n s d.contexts.zipIdx

/-- The entry at a slot's position. -/
def entryAt? (d : Document) (sl : Slot) : Option Entry :=
  d.contexts[sl.context]?.bind (·.entries[sl.entry]?)

/-- An entry of a document under a context name, with a source text and a disambiguation. -/
def Keyed (d : Document) (c s : String) (o : Option String) (e : Entry) : Prop :=
  ∃ x ∈ d.contexts, x.name = c ∧ e ∈ x.entries ∧ e.source = s ∧ e.disambiguation = o

variable {d : Document} {n s : String} {o : Option String} {e : Entry} {sl : Slot}

theorem mem_slots :
    sl ∈ d.slots n s ↔ ∃ x, d.contexts[sl.context]? = some x ∧ x.name = n ∧
      ∃ e, x.entries[sl.entry]? = some e ∧ e.source = s ∧ e.disambiguation = sl.disambiguation := by
  cases sl
  simp [slots, contextSlots, entrySlots, List.mem_flatMap, List.mem_filterMap,
    List.mem_zipIdx_iff_getElem?]

/-- The entry at a slot of the document has the slot's key. -/
theorem entryAt?_of_mem_slots (h : sl ∈ d.slots n s) :
    ∃ e, d.entryAt? sl = some e ∧ d.Keyed n s sl.disambiguation e := by
  obtain ⟨x, hx, hname, e, he, hs, ho⟩ := mem_slots.1 h
  refine ⟨e, by simp [entryAt?, hx, he], x, List.mem_of_getElem? hx, hname,
    List.mem_of_getElem? he, hs, ho⟩

/-- An entry with a key has a slot with its disambiguation. -/
theorem exists_mem_slots_of_keyed (h : d.Keyed n s o e) : ∃ sl ∈ d.slots n s, sl.disambiguation = o := by
  obtain ⟨x, hx, hname, he, hs, ho⟩ := h
  obtain ⟨ci, hci⟩ := List.mem_iff_getElem?.1 hx
  obtain ⟨mi, hmi⟩ := List.mem_iff_getElem?.1 he
  exact ⟨⟨o, ci, mi⟩, mem_slots.2 ⟨x, hci, hname, e, hmi, hs, ho⟩, rfl⟩

/-- The entries of a document with the names of their contexts, in order. -/
def namedEntries (d : Document) : List (String × Entry) :=
  d.contexts.flatMap fun c => c.entries.map fun e => (c.name, e)

theorem keys_eq_map (d : Document) : d.keys = d.namedEntries.map fun ne => ne.2.key ne.1 := by
  simp only [keys, namedEntries, List.map_flatMap, List.map_map]
  rfl

theorem mem_namedEntries {e : Entry} : (n, e) ∈ d.namedEntries ↔ ∃ c ∈ d.contexts, e ∈ c.entries ∧ c.name = n := by
  simp [namedEntries]

/-- With distinct keys, an entry is fixed by its context name and its key. -/
theorem Keyed.unique (hn : d.keys.Nodup) {e' : Entry} (he : d.Keyed n s o e) (he' : d.Keyed n s o e') :
    e = e' := by
  obtain ⟨x, hx, hname, hmx, hs, ho⟩ := he
  obtain ⟨x', hx', hname', hmx', hs', ho'⟩ := he'
  have hmem : (n, e) ∈ d.namedEntries := mem_namedEntries.2 ⟨x, hx, hmx, hname⟩
  have hmem' : (n, e') ∈ d.namedEntries := mem_namedEntries.2 ⟨x', hx', hmx', hname'⟩
  rw [keys_eq_map] at hn
  have hsame := List.inj_on_of_nodup_map hn hmem hmem' (by simp [Entry.key, hs, hs', ho, ho'])
  exact (Prod.mk.inj hsame).2

end Document

/-! ## Building the index -/

section Build

variable {name : String} {ci mi : Nat} {b b' : List (String × List Slot)} {es : List Entry}

/-- Indexing a context's entries appends, to the slots of each source text, the slots of the
entries with that source, in order. -/
theorem indexEntries_slots (h : indexEntries name ci mi b es = .ok b') (s : String) :
    (b'.lookup s).getD [] = (b.lookup s).getD [] ++ entrySlots ci s (es.zipIdx mi) := by
  induction es generalizing mi b with
  | nil =>
    cases h
    simp [entrySlots]
  | cons e rest ih =>
    rw [indexEntries] at h
    split at h
    · cases h
    · rw [ih h, lookup_putKey, List.zipIdx_cons]
      by_cases hs : s = e.source
      · subst hs
        simp [entrySlots]
      · simp [entrySlots, hs, Ne.symm hs]

/-- Indexing contexts appends, to the slots under each context name and source text, the slots of
their entries with that name and source, in order. -/
theorem indexContexts_slots {index index' : Index} {cs : List Context}
    (h : indexContexts ci index cs = .ok index') (n s : String) :
    index'.slots n s = index.slots n s ++ contextSlots n s (cs.zipIdx ci) := by
  induction cs generalizing ci index with
  | nil =>
    cases h
    simp [contextSlots]
  | cons c rest ih =>
    obtain ⟨bySource, hby, hrest⟩ := bind_eq_ok h
    rw [ih hrest, List.zipIdx_cons]
    by_cases hn : n = c.name
    · subst hn
      simp [Index.slots, contextSlots, indexEntries_slots hby]
    · simp [Index.slots, contextSlots, hn, Ne.symm hn]

/-- The disambiguations with a slot in a table by source text are those of the keys seen under a
context name. -/
def SlotsHold (name : String) (b : List (String × List Slot)) (seen : List EntryKey) : Prop :=
  ∀ s o, (∃ sl ∈ (b.lookup s).getD [], sl.disambiguation = o) ↔ (name, s, o) ∈ seen

/-- Under every context name, the disambiguations with a slot are those of the keys seen. -/
def IndexHolds (index : Index) (seen : List EntryKey) : Prop :=
  ∀ n, SlotsHold n ((index.lookup n).getD []) seen

variable {seen : List EntryKey}

theorem SlotsHold.any_iff (hb : SlotsHold name b seen) (e : Entry) :
    ((b.lookup e.source).getD []).any (·.disambiguation == e.disambiguation) = true ↔
      e.key name ∈ seen := by
  simpa only [List.any_eq_true, beq_iff_eq, Entry.key] using hb e.source e.disambiguation

/-- Adding an entry's slot to its source text's slots adds its key to those seen. -/
theorem SlotsHold.put (hb : SlotsHold name b seen) (e : Entry) (mi : Nat) :
    SlotsHold name (putKey e.source ((b.lookup e.source).getD [] ++ [⟨e.disambiguation, ci, mi⟩]) b)
      (e.key name :: seen) := by
  intro s o
  rw [lookup_putKey, List.mem_cons, Entry.key]
  by_cases hs : s = e.source
  · subst hs
    rw [if_pos rfl, Option.getD_some, ← hb e.source o]
    simp only [List.mem_append, List.mem_singleton, Prod.mk.injEq, true_and]
    constructor
    · rintro ⟨sl, hsl | rfl, rfl⟩
      · exact .inr ⟨sl, hsl, rfl⟩
      · exact .inl rfl
    · rintro (rfl | ⟨sl, hsl, rfl⟩)
      · exact ⟨_, .inr rfl, rfl⟩
      · exact ⟨sl, .inl hsl, rfl⟩
  · simp [hs, hb s o]

theorem IndexHolds.nil : IndexHolds [] [] := by
  simp [IndexHolds, SlotsHold]

/-- Putting a context's table, holding the keys seen and those of the context, under its name. -/
theorem IndexHolds.put {index : Index} (hidx : IndexHolds index seen) (c : Context)
    (hb : SlotsHold c.name b' ((c.entries.map (Entry.key c.name)).reverse ++ seen)) :
    IndexHolds (putKey c.name b' index) ((c.entries.map (Entry.key c.name)).reverse ++ seen) := by
  intro n
  rw [lookup_putKey]
  split
  · rename_i hn
    subst hn
    simpa using hb
  · rename_i hn
    intro s o
    -- the context's keys are all under its own name, not this one
    have hne : c.name ≠ n := Ne.symm hn
    simp [hidx n s o, Entry.key, hne]

/-- Indexing a context's entries fails exactly at the first entry whose key was seen. -/
theorem indexEntries_eq_error {err : CatalogError} (hb : SlotsHold name b seen)
    (h : indexEntries name ci mi b es = .error err) :
    ∃ s o, err = .duplicate name s o ∧ firstRepeat seen (es.map (Entry.key name)) = some (name, s, o) := by
  induction es generalizing mi b seen with
  | nil => cases h
  | cons e rest ih =>
    rw [indexEntries] at h
    split at h
    · rename_i hany
      cases h
      have hk := (hb.any_iff e).1 hany
      rw [List.map_cons, firstRepeat, if_pos (by simpa using hk)]
      exact ⟨e.source, e.disambiguation, rfl, rfl⟩
    · rename_i hany
      have hnot : e.key name ∉ seen := fun hk => hany ((hb.any_iff e).2 hk)
      rw [List.map_cons, firstRepeat, if_neg (by simpa using hnot)]
      exact ih (hb.put e mi) h

/-- When indexing a context's entries succeeds, none of their keys repeats, and the table holds
them with those seen before. -/
theorem indexEntries_eq_ok (hb : SlotsHold name b seen) (h : indexEntries name ci mi b es = .ok b') :
    firstRepeat seen (es.map (Entry.key name)) = none ∧
      SlotsHold name b' ((es.map (Entry.key name)).reverse ++ seen) := by
  induction es generalizing mi b seen with
  | nil =>
    cases h
    exact ⟨rfl, hb⟩
  | cons e rest ih =>
    rw [indexEntries] at h
    split at h
    · cases h
    · rename_i hany
      have hnot : e.key name ∉ seen := fun hk => hany ((hb.any_iff e).2 hk)
      obtain ⟨hnone, hb'⟩ := ih (hb.put e mi) h
      rw [List.map_cons, firstRepeat, if_neg (by simpa using hnot), List.reverse_cons,
        List.append_assoc, List.singleton_append]
      exact ⟨hnone, hb'⟩

/-- The keys of contexts, in order. -/
abbrev contextKeys (cs : List Context) : List EntryKey :=
  cs.flatMap fun c => c.entries.map (Entry.key c.name)

/-- Indexing contexts fails exactly at the first entry whose key was seen. -/
theorem indexContexts_eq_error {err : CatalogError} {index : Index} {cs : List Context}
    (hidx : IndexHolds index seen) (h : indexContexts ci index cs = .error err) :
    ∃ n s o, err = .duplicate n s o ∧ firstRepeat seen (contextKeys cs) = some (n, s, o) := by
  induction cs generalizing ci index seen with
  | nil => cases h
  | cons c rest ih =>
    rw [contextKeys, List.flatMap_cons, firstRepeat_append]
    rw [indexContexts] at h
    cases hby : indexEntries c.name ci 0 ((index.lookup c.name).getD []) c.entries with
    | error err' =>
      rw [hby] at h
      cases h
      obtain ⟨s, o, rfl, hrep⟩ := indexEntries_eq_error (hidx c.name) hby
      exact ⟨c.name, s, o, rfl, by rw [hrep]; rfl⟩
    | ok bySource =>
      rw [hby] at h
      obtain ⟨hnone, hb⟩ := indexEntries_eq_ok (hidx c.name) hby
      rw [hnone]
      exact ih (hidx.put c hb) h

/-- When indexing contexts succeeds, none of their keys repeats. -/
theorem indexContexts_eq_ok {index index' : Index} {cs : List Context}
    (hidx : IndexHolds index seen) (h : indexContexts ci index cs = .ok index') :
    firstRepeat seen (contextKeys cs) = none := by
  induction cs generalizing ci index seen with
  | nil => rfl
  | cons c rest ih =>
    obtain ⟨bySource, hby, hrest⟩ := bind_eq_ok h
    obtain ⟨hnone, hb⟩ := indexEntries_eq_ok (hidx c.name) hby
    rw [contextKeys, List.flatMap_cons, firstRepeat_append, hnone]
    exact ih (hidx.put c hb) hrest

end Build

namespace Catalog

variable {d : Document} {k : Catalog}

theorem ofDocument_eq_error {err : CatalogError} (h : ofDocument d = .error err) :
    ∃ c s o, err = .duplicate c s o ∧ firstRepeat [] d.keys = some (c, s, o) := by
  rw [ofDocument] at h
  cases hidx : indexContexts 0 [] d.contexts with
  | error err' =>
    rw [hidx] at h
    cases h
    exact indexContexts_eq_error IndexHolds.nil hidx
  | ok index =>
    rw [hidx] at h
    cases h

/-- A catalog holds its document, the rule of its language, and an index whose slots under each
context name and source text are those of the document's entries, in the order of the file. -/
theorem ofDocument_eq_ok (h : ofDocument d = .ok k) :
    k.document = d ∧ k.rule = d.language.bind PluralRule.ofLanguage ∧ d.keys.Nodup ∧
      ∀ n s, k.index.slots n s = d.slots n s := by
  obtain ⟨index, hidx, hk⟩ := bind_eq_ok h
  cases hk
  have hnone := indexContexts_eq_ok IndexHolds.nil hidx
  refine ⟨rfl, rfl, ((firstRepeat_eq_none_iff [] d.keys).1 hnone).1, fun n s => ?_⟩
  rw [indexContexts_slots hidx n s]
  simp [Index.slots, Document.slots]

theorem ofDocument_document (h : ofDocument d = .ok k) : k.document = d ∧ d.keys.Nodup :=
  ⟨(ofDocument_eq_ok h).1, (ofDocument_eq_ok h).2.2.1⟩

/-- A catalog's plural rule is the rule of its document's language. -/
theorem ofDocument_rule (h : ofDocument d = .ok k) : k.rule = d.language.bind PluralRule.ofLanguage :=
  (ofDocument_eq_ok h).2.1

theorem ofDocument_slots (h : ofDocument d = .ok k) (n s : String) : k.index.slots n s = d.slots n s :=
  (ofDocument_eq_ok h).2.2.2 n s

/-- A document is refused for a key exactly when that key is the first to repeat an earlier one. -/
theorem ofDocument_eq_duplicate_iff {c s : String} {o : Option String} :
    ofDocument d = .error (.duplicate c s o) ↔ firstRepeat [] d.keys = some (c, s, o) := by
  constructor
  · intro h
    obtain ⟨c', s', o', hdup, hrep⟩ := ofDocument_eq_error h
    cases hdup
    exact hrep
  · intro hrep
    cases h : ofDocument d with
    | ok k =>
      rw [firstRepeat_nil_of_nodup (ofDocument_document h).2] at hrep
      cases hrep
    | error err =>
      obtain ⟨c', s', o', rfl, hrep'⟩ := ofDocument_eq_error h
      rw [hrep] at hrep'
      cases hrep'
      rfl

/-- A document becomes a catalog exactly when its keys are distinct. -/
theorem ofDocument_ok_iff : (∃ k, ofDocument d = .ok k) ↔ d.keys.Nodup := by
  constructor
  · rintro ⟨k, hk⟩
    exact (ofDocument_document hk).2
  · intro hn
    cases h : ofDocument d with
    | ok k => exact ⟨k, rfl⟩
    | error err =>
      obtain ⟨c, s, o, -, hrep⟩ := ofDocument_eq_error h
      rw [firstRepeat_nil_of_nodup hn] at hrep
      cases hrep

/-- A document is refused as holding a duplicate exactly when its keys repeat. -/
theorem ofDocument_duplicate_iff : (∃ c s o, ofDocument d = .error (.duplicate c s o)) ↔ ¬d.keys.Nodup := by
  constructor
  · rintro ⟨c, s, o, h⟩ hn
    obtain ⟨k, hk⟩ := ofDocument_ok_iff.2 hn
    rw [hk] at h
    cases h
  · intro hn
    cases h : ofDocument d with
    | ok k => exact absurd (ofDocument_document h).2 hn
    | error err =>
      obtain ⟨c, s, o, rfl, -⟩ := ofDocument_eq_error h
      exact ⟨c, s, o, rfl⟩

/-- A lookup reads the first slot with the disambiguation, under the context name and the source
text, and the entry at its position. -/
theorem get?_eq_find? (k : Catalog) (n s : String) (o : Option String) :
    k.get? n s o = ((k.index.slots n s).find? (·.disambiguation == o)).bind k.document.entryAt? := by
  simp only [get?, Index.slots]
  cases k.index.lookup n with
  | none => rfl
  | some bySource =>
    simp only [Option.bind_eq_bind, Option.bind_some, Option.getD_some]
    cases bySource.lookup s <;> rfl

/-- A lookup in a catalog finds exactly the entry of its document with the key asked for, and
nothing when there is none. -/
theorem get?_eq_some_iff (hk : ofDocument d = .ok k) {n s : String} {o : Option String} {e : Entry} :
    k.get? n s o = some e ↔ d.Keyed n s o e := by
  obtain ⟨hdoc, -, hn, hslots⟩ := ofDocument_eq_ok hk
  rw [get?_eq_find?, hslots, hdoc, Option.bind_eq_some_iff]
  constructor
  · rintro ⟨sl, hfind, hat⟩
    obtain ⟨e', hat', hkeyed⟩ := Document.entryAt?_of_mem_slots (List.mem_of_find?_eq_some hfind)
    have ho : sl.disambiguation = o := by simpa using List.find?_some hfind
    obtain rfl : e = e' := Option.some.inj (hat.symm.trans hat')
    exact ho ▸ hkeyed
  · intro hkeyed
    -- the entry has a slot, so the search finds one, whose entry has the key too
    obtain ⟨sl, hsl, ho⟩ := Document.exists_mem_slots_of_keyed hkeyed
    have hsome : ((d.slots n s).find? (·.disambiguation == o)).isSome :=
      List.find?_isSome.2 ⟨sl, hsl, by simp [ho]⟩
    obtain ⟨sl', hfind⟩ := Option.isSome_iff_exists.1 hsome
    obtain ⟨e', hat', hkeyed'⟩ := Document.entryAt?_of_mem_slots (List.mem_of_find?_eq_some hfind)
    have ho' : sl'.disambiguation = o := by simpa using List.find?_some hfind
    have hkeyed'' : d.Keyed n s o e' := ho' ▸ hkeyed'
    exact ⟨sl', hfind, by rw [hat', Document.Keyed.unique hn hkeyed'' hkeyed]⟩

/-- A document becomes a catalog exactly when no two of its entries share context name, source
and disambiguation; the error names the first entry whose key repeats an earlier one. A catalog
holds its document, and looking up a key gives the one entry with that key, or nothing. -/
theorem ofDocument_index (d : Document) :
    (∀ c s o, ofDocument d = .error (.duplicate c s o) ↔
      ∃ pre post, d.keys = pre ++ (c, s, o) :: post ∧ pre.Nodup ∧ (c, s, o) ∈ pre) ∧
    (∀ err, ofDocument d = .error err → ∃ c s o, err = .duplicate c s o) ∧
    ((∃ k, ofDocument d = .ok k) ↔ d.keys.Nodup) ∧
    (∀ k, ofDocument d = .ok k → k.document = d ∧
      ∀ c s o e, k.get? c s o = some e ↔
        ∃ x ∈ d.contexts, x.name = c ∧ e ∈ x.entries ∧ e.source = s ∧ e.disambiguation = o) := by
  refine ⟨fun c s o => ?_, fun err h => ?_, ofDocument_ok_iff,
    fun k hk => ⟨(ofDocument_document hk).1, fun c s o e => get?_eq_some_iff hk⟩⟩
  · -- the reported key is the first repeat; with nothing seen before, it repeats a key of `pre`
    rw [ofDocument_eq_duplicate_iff, firstRepeat_eq_some_iff]
    simp only [List.not_mem_nil, not_false_eq_true, implies_true, true_and, false_or]
  · obtain ⟨c, s, o, rfl, -⟩ := ofDocument_eq_error h
    exact ⟨c, s, o, rfl⟩

end Catalog

end Phrasebook
