import Phrasebook.Document.Assembly

/-! # Canonical documents

The reader of catalogs takes an empty optional text (the language, the source language, an
entry's disambiguation and comments) for a missing one: it stores each of them through
`nonEmpty`. The canonical form of a document makes the same choice, and every document the reader
produces is its own canonical form, since no reading step ever stores `some ""`.
-/

namespace Phrasebook

open Assembly

/-- An optional text, with an empty text taken as absent. -/
def dropEmpty : Option String → Option String
  | some "" => none
  | o => o

/-- The entry with its empty optional texts taken as absent. -/
def Entry.canonical (e : Entry) : Entry :=
  { e with disambiguation := dropEmpty e.disambiguation, extraComment := dropEmpty e.extraComment,
           translatorComment := dropEmpty e.translatorComment }

/-- The context with its entries' empty optional texts taken as absent. -/
def Context.canonical (c : Context) : Context :=
  { c with entries := c.entries.map Entry.canonical }

/-- The document with every empty optional text taken as absent. -/
def Document.canonical (d : Document) : Document :=
  { d with language := dropEmpty d.language, sourceLanguage := dropEmpty d.sourceLanguage,
           contexts := d.contexts.map Context.canonical }

theorem bind_nonEmpty (o : Option String) : o.bind nonEmpty = dropEmpty o := by
  unfold dropEmpty
  split
  · rfl
  · cases o with
    | none => rfl
    | some s => simp_all [nonEmpty]

@[simp] theorem dropEmpty_eq_self {o : Option String} : dropEmpty o = o ↔ o ≠ some "" := by
  unfold dropEmpty
  split <;> simp_all

@[simp] theorem nonEmpty_ne_empty (s : String) : nonEmpty s ≠ some "" := by
  by_cases h : s = "" <;> simp [nonEmpty, h]

@[simp] theorem bind_nonEmpty_ne_empty (o : Option String) : o.bind nonEmpty ≠ some "" := by
  cases o <;> simp

/-! ## Being canonical, field by field -/

theorem Entry.canonical_eq_self {e : Entry} :
    e.canonical = e ↔ e.disambiguation ≠ some "" ∧ e.extraComment ≠ some "" ∧ e.translatorComment ≠ some "" := by
  obtain ⟨source, disambiguation, target, status, translatorComment, extraComment, locations⟩ := e
  simp only [canonical, Entry.mk.injEq, dropEmpty_eq_self, true_and, and_true]
  exact ⟨fun ⟨h₁, h₂, h₃⟩ => ⟨h₁, h₃, h₂⟩, fun ⟨h₁, h₂, h₃⟩ => ⟨h₁, h₃, h₂⟩⟩

theorem Context.canonical_eq_self {c : Context} : c.canonical = c ↔ ∀ e ∈ c.entries, e.canonical = e := by
  obtain ⟨name, entries⟩ := c
  have hid : entries.map Entry.canonical = entries ↔ entries.map Entry.canonical = entries.map id := by
    rw [List.map_id]
  simp only [canonical, Context.mk.injEq, true_and, hid, List.map_eq_map_iff, id]

theorem Document.canonical_eq_self {d : Document} :
    d.canonical = d ↔ d.language ≠ some "" ∧ d.sourceLanguage ≠ some "" ∧ ∀ c ∈ d.contexts, c.canonical = c := by
  obtain ⟨version, language, sourceLanguage, contexts⟩ := d
  have hid : contexts.map Context.canonical = contexts ↔ contexts.map Context.canonical = contexts.map id := by
    rw [List.map_id]
  simp only [canonical, Document.mk.injEq, true_and, dropEmpty_eq_self, hid, List.map_eq_map_iff, id]

theorem PendingEntry.complete_canonical {p : PendingEntry} (h : p.entry.canonical = p.entry) :
    p.complete.canonical = p.complete := by
  unfold complete
  rw [Entry.canonical_eq_self] at h ⊢
  split <;> split <;> exact h

theorem bind_eq_ok {ε α β : Type} {x : Except ε α} {f : α → Except ε β} {b : β} (h : (x >>= f) = .ok b) :
    ∃ v, x = .ok v ∧ f v = .ok b := by
  cases x with
  | error e => cases h
  | ok v => exact ⟨v, rfl, h⟩

theorem map_eq_ok {ε α β : Type} {x : Except ε α} {f : α → β} {b : β} (h : (f <$> x) = .ok b) :
    ∃ v, x = .ok v ∧ f v = b := by
  cases x with
  | error e => cases h
  | ok v => exact ⟨v, rfl, Except.ok.inj h⟩

/-! ## The reader keeps every text it stores canonical -/

namespace Assembly

/-- A reader state whose document, context and entry hold no empty optional text. -/
def Canonical (a : Assembly) : Prop :=
  (∀ d ∈ a.document, d.canonical = d) ∧ (∀ c ∈ a.context, c.canonical = c) ∧
    (∀ p ∈ a.pending, p.entry.canonical = p.entry)

theorem canonical_empty : Canonical {} := by
  simp [Canonical]

namespace Canonical

variable {a : Assembly}

theorem setDocument (h : a.Canonical) {d : Document} (hd : d.canonical = d) :
    { a with document := some d }.Canonical :=
  ⟨by simpa using hd, h.2.1, h.2.2⟩

theorem setContext (h : a.Canonical) {c : Context} (hc : c.canonical = c) :
    { a with context := some c }.Canonical :=
  ⟨h.1, by simpa using hc, h.2.2⟩

theorem clearContext (h : a.Canonical) : { a with context := none }.Canonical :=
  ⟨h.1, by simp, h.2.2⟩

theorem setPending (h : a.Canonical) {p : PendingEntry} (hp : p.entry.canonical = p.entry) :
    { a with pending := some p }.Canonical :=
  ⟨h.1, h.2.1, by simpa using hp⟩

theorem clearPending (h : a.Canonical) : { a with pending := none }.Canonical :=
  ⟨h.1, h.2.1, by simp⟩

theorem withPending (h : a.Canonical) {f : PendingEntry → PendingEntry}
    (hf : ∀ p, p.entry.canonical = p.entry → (f p).entry.canonical = (f p).entry) :
    (a.withPending f).Canonical := by
  refine ⟨h.1, h.2.1, ?_⟩
  intro p hmem
  simp only [Assembly.withPending, Option.mem_def, Option.map_eq_some_iff] at hmem
  obtain ⟨p₀, hp₀, rfl⟩ := hmem
  exact hf p₀ (h.2.2 p₀ hp₀)

/-- An update of the entry that leaves its optional texts alone. -/
theorem withPending_frame (h : a.Canonical) {f : PendingEntry → PendingEntry}
    (hf : ∀ p, (f p).entry.disambiguation = p.entry.disambiguation ∧
      (f p).entry.extraComment = p.entry.extraComment ∧
      (f p).entry.translatorComment = p.entry.translatorComment) :
    (a.withPending f).Canonical := by
  refine h.withPending fun p hp => ?_
  obtain ⟨h₁, h₂, h₃⟩ := hf p
  rw [Entry.canonical_eq_self] at hp ⊢
  rw [h₁, h₂, h₃]
  exact hp

end Canonical

theorem startElement_canonical {a a' : Assembly} {t : Markup.Tag} (h : a.Canonical)
    (hstep : a.startElement t = .ok a') : a'.Canonical := by
  unfold startElement at hstep
  split at hstep
  · -- `TS`: the languages are stored through `nonEmpty`
    split at hstep
    · cases hstep
    · obtain ⟨version, -, hstep⟩ := bind_eq_ok hstep
      obtain ⟨language, -, hstep⟩ := bind_eq_ok hstep
      obtain ⟨source, -, hstep⟩ := bind_eq_ok hstep
      cases hstep
      exact h.setDocument (Document.canonical_eq_self.2 ⟨by simp, by simp, by simp⟩)
  · -- `context` starts empty
    split at hstep
    · cases hstep
    · cases hstep
      exact h.setContext (Context.canonical_eq_self.2 (by simp))
  · -- `name` begins a capture or not
    cases hstep
    split <;> exact h
  · -- `message` starts empty
    split at hstep
    · cases hstep
    · obtain ⟨numerus, -, hstep⟩ := bind_eq_ok hstep
      cases hstep
      exact h.setPending (Entry.canonical_eq_self.2 (by simp))
  · -- `location` adds a location
    split at hstep
    · cases hstep
    · obtain ⟨file, -, hstep⟩ := bind_eq_ok hstep
      obtain ⟨line, -, hstep⟩ := map_eq_ok hstep
      subst hstep
      exact h.withPending_frame fun p => ⟨rfl, rfl, rfl⟩
  -- the starts of an entry's texts begin a capture or not
  · cases hstep
    split <;> exact h
  · cases hstep
    split <;> exact h
  · cases hstep
    split <;> exact h
  · cases hstep
    split <;> exact h
  · -- `translation` sets the status
    split at hstep
    · cases hstep
    · obtain ⟨kind, -, hstep⟩ := bind_eq_ok hstep
      split at hstep
      · cases hstep
      · cases hstep
        split <;> exact h.withPending_frame fun p => ⟨rfl, rfl, rfl⟩
  · split at hstep
    · cases hstep
    · cases hstep
      split <;> exact h
  · cases hstep
    exact h

theorem endElement_canonical {a : Assembly} (h : a.Canonical) (n : String) : (a.endElement n).Canonical := by
  have ht : ({ a with buffer := none } : Assembly).Canonical := h
  unfold endElement
  split
  · -- `name` names the context
    split
    next c text hc _ =>
      exact ht.setContext (Context.canonical_eq_self.2 fun e he => Context.canonical_eq_self.1 (h.2.1 c hc) e he)
    next => exact ht
  · split
    · exact ht.withPending_frame fun p => ⟨rfl, rfl, rfl⟩
    · exact ht
  -- the optional texts are stored through `nonEmpty`
  · split
    · refine ht.withPending fun p hp => ?_
      obtain ⟨-, h₂, h₃⟩ := Entry.canonical_eq_self.1 hp
      exact Entry.canonical_eq_self.2 ⟨nonEmpty_ne_empty _, h₂, h₃⟩
    · exact ht
  · split
    · refine ht.withPending fun p hp => ?_
      obtain ⟨h₁, -, h₃⟩ := Entry.canonical_eq_self.1 hp
      exact Entry.canonical_eq_self.2 ⟨h₁, nonEmpty_ne_empty _, h₃⟩
    · exact ht
  · split
    · refine ht.withPending fun p hp => ?_
      obtain ⟨h₁, h₂, -⟩ := Entry.canonical_eq_self.1 hp
      exact Entry.canonical_eq_self.2 ⟨h₁, h₂, nonEmpty_ne_empty _⟩
    · exact ht
  · split
    · exact ht.withPending_frame fun p => ⟨rfl, rfl, rfl⟩
    · exact ht
  · split
    · exact ht.withPending_frame fun p => ⟨rfl, rfl, rfl⟩
    · exact ht
  · -- `message` adds the completed entry to the context
    split
    next c p hc hp =>
      have hentries : ∀ e ∈ c.entries ++ [p.complete], e.canonical = e :=
        List.forall_mem_append.2 ⟨Context.canonical_eq_self.1 (h.2.1 c hc),
          List.forall_mem_singleton.2 (PendingEntry.complete_canonical (h.2.2 p hp))⟩
      exact (h.setContext (Context.canonical_eq_self.2 hentries)).clearPending
    next => exact h.clearPending
  · -- `context` adds the context to the document
    split
    next d c hd hc =>
      obtain ⟨h₁, h₂, h₃⟩ := Document.canonical_eq_self.1 (h.1 d hd)
      have hcontexts : ∀ c' ∈ d.contexts ++ [c], c'.canonical = c' :=
        List.forall_mem_append.2 ⟨h₃, List.forall_mem_singleton.2 (h.2.1 c hc)⟩
      have hd' : ({ d with contexts := d.contexts ++ [c] } : Document).canonical =
          { d with contexts := d.contexts ++ [c] } :=
        Document.canonical_eq_self.2 ⟨h₁, h₂, hcontexts⟩
      exact (h.setDocument hd').clearContext
    next => exact h.clearContext
  · exact h
  · exact h

/-- One event keeps the reader canonical. -/
theorem step_canonical {a a' : Assembly} {ev : Markup.Event} (h : a.Canonical) (hstep : a.step ev = .ok a') :
    a'.Canonical := by
  cases ev with
  | start t => exact startElement_canonical h hstep
  | empty t =>
    obtain ⟨b, hb, hstep⟩ := bind_eq_ok hstep
    cases hstep
    exact endElement_canonical (startElement_canonical h hb) _
  | close n =>
    cases hstep
    exact endElement_canonical h _
  | text raw =>
    simp only [step] at hstep
    split at hstep
    · cases hstep
      exact h
    · cases hstep
  | cdata c =>
    cases hstep
    exact h
  | aside =>
    cases hstep
    exact h

/-- A whole trace keeps the reader canonical. -/
theorem run_canonical {t : Markup.Trace} {a a' : Assembly} (h : a.Canonical) (hrun : run t a = .ok a') :
    a'.Canonical := by
  induction t generalizing a with
  | done =>
    cases hrun
    exact h
  | fail e => cases hrun
  | event ev rest ih =>
    obtain ⟨b, hb, hrun⟩ := bind_eq_ok hrun
    exact ih (step_canonical h hb) hrun

end Assembly

/-- A document that the reader produces holds no empty optional text. -/
theorem Document.read_canonical {x : String} {d : Document} (h : Document.read x = .ok d) : d.canonical = d := by
  obtain ⟨a, ha, hfinish⟩ := bind_eq_ok h
  have hc := Assembly.run_canonical Assembly.canonical_empty ha
  unfold Assembly.finish at hfinish
  split at hfinish
  · cases hfinish
  · split at hfinish
    · cases hfinish
    · split at hfinish
      · rename_i hd
        split at hfinish
        · cases hfinish
          exact hc.1 _ hd
        · cases hfinish
      · cases hfinish

end Phrasebook
