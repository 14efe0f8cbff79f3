import Mathlib.Data.List.Forall2
import Phrasebook.Proofs.Markup.Elements
import Phrasebook.Proofs.Document.Grammar

/-! # The reader keeps every element

Reading loses and repeats nothing. The contexts of a document read from a text are the text's
`context` elements, one each and in order; the entries of a context are the `message` elements
inside its element, at any depth, one each and in order; the locations of an entry are the
`location` elements inside its `message`, with their file (empty when absent) and their line (none
when absent or unreadable). An entry has plural forms exactly when its `message` tag says
`numerus="yes"`, and its status is the one its last `translation` element names, or unfinished
when it has none (`Document.read_keeps_elements`).

The reader holds a context and an entry in slots and moves each into its parent only when its
element ends. Three situations carry the proof, one per level of the grammar: outside any context
(`Assembly.feed_outside`), inside a context and outside any entry (`Assembly.feed_context_body`),
and inside an entry (`Assembly.feed_message_body`). In each, the events up to the end tag that
closes the element are read one at a time. The elements opened meanwhile are none of `TS`,
`context` and `message`, since their starts fail there; so the end tag that closes the element is
the first to reach the reader as the end of a context or an entry.
-/

namespace Phrasebook

open Markup

/-- A location read from a `location` tag: its `filename`, or the empty text without one, and its
`line` when it has one that reads as a line. -/
def Location.OfTag (loc : Location) (t : Tag) : Prop :=
  ∃ file line, Assembly.attrValue t "filename" = .ok file ∧ Assembly.attrValue t "line" = .ok line ∧
    loc = { file := file.getD "", line := line.bind fun l => (Line.parse l).toOption }

/-- The status that a `translation` tag names by its `type` attribute. -/
def Markup.Tag.status? (t : Tag) : Option Status :=
  match Assembly.attrValue t "type" with
  | .ok kind => Status.ofAttribute kind
  | .error _ => none

/-- An entry read from a `message` element with tag `t` and the events `body` inside it: one
location per `location` element, plural forms exactly for `numerus="yes"`, and the status of the
last `translation` element, or unfinished without one. -/
structure Entry.ReadFrom (e : Entry) (t : Tag) (body : List Event) : Prop where
  locations : List.Forall₂ Location.OfTag e.locations (tagsNamed "location" body)
  plural : e.target.isPlural = true ↔ Assembly.attrValue t "numerus" = .ok (some "yes")
  status : match (tagsNamed "translation" body).getLast? with
    | none => e.status = .unfinished
    | some tr => tr.status? = some e.status

/-- A context read from the events inside a `context` element: one entry per `message` element, in
order. -/
def Context.ReadFrom (c : Context) (body : List Event) : Prop :=
  List.Forall₂ (fun e (m : Tag × List Event) => e.ReadFrom m.1 m.2) c.entries
    (elementsNamed "message" body)

/-! ## Entries being read -/

namespace PendingEntry

/-- What the events `body` inside a `message` element do to the entry being read, as far as the
elements go: they keep its plural flag and its target plain, add one location per `location`
element, and the last `translation` element sets the status. -/
structure Follows (p p' : PendingEntry) (body : List Event) : Prop where
  numerus : p'.numerus = p.numerus
  plain : p.entry.target.isPlural = false → p'.entry.target.isPlural = false
  locations : ∃ L, p'.entry.locations = p.entry.locations ++ L ∧
    List.Forall₂ Location.OfTag L (tagsNamed "location" body)
  untranslated : tagsNamed "translation" body = [] →
    p'.hasTarget = p.hasTarget ∧ p'.entry.status = p.entry.status
  translated : ∀ tr, (tagsNamed "translation" body).getLast? = some tr →
    p'.hasTarget = true ∧ tr.status? = some p'.entry.status

/-- The parts of an entry that its elements decide. -/
def Keeps (p p' : PendingEntry) : Prop :=
  p'.numerus = p.numerus ∧ p'.hasTarget = p.hasTarget ∧ p'.entry.status = p.entry.status ∧
    p'.entry.locations = p.entry.locations ∧
    (p.entry.target.isPlural = false → p'.entry.target.isPlural = false)

theorem Keeps.refl (p : PendingEntry) : Keeps p p := ⟨rfl, rfl, rfl, rfl, id⟩

theorem Keeps.trans {p₁ p₂ p₃ : PendingEntry} (h₁ : Keeps p₁ p₂) (h₂ : Keeps p₂ p₃) : Keeps p₁ p₃ :=
  ⟨h₂.1.trans h₁.1, h₂.2.1.trans h₁.2.1, h₂.2.2.1.trans h₁.2.2.1, h₂.2.2.2.1.trans h₁.2.2.2.1,
    fun hp => h₂.2.2.2.2 (h₁.2.2.2.2 hp)⟩

/-- Events without `location` and `translation` elements that keep the entry's parts. -/
theorem Follows.of_keeps {p p' : PendingEntry} (h : Keeps p p') {body : List Event}
    (hl : tagsNamed "location" body = []) (ht : tagsNamed "translation" body = []) :
    Follows p p' body where
  numerus := h.1
  plain hp := h.2.2.2.2 hp
  locations := ⟨[], by simp [h.2.2.2.1], by rw [hl]; exact .nil⟩
  untranslated _ := ⟨h.2.1, h.2.2.1⟩
  translated tr htr := by simp [ht] at htr

theorem Follows.refl (p : PendingEntry) : Follows p p [] :=
  .of_keeps (Keeps.refl p) rfl rfl

/-- Only the tags of the events matter. -/
theorem Follows.of_tags {p p' : PendingEntry} {body body' : List Event} (h : Follows p p' body)
    (hl : tagsNamed "location" body' = tagsNamed "location" body)
    (ht : tagsNamed "translation" body' = tagsNamed "translation" body) : Follows p p' body' := by
  obtain ⟨h₁, h₂, h₃, h₄, h₅⟩ := h
  exact ⟨h₁, h₂, hl ▸ h₃, ht ▸ h₄, ht ▸ h₅⟩

/-- The events of one body, then of another. -/
theorem Follows.trans {p₁ p₂ p₃ : PendingEntry} {xs ys : List Event} (h₁ : Follows p₁ p₂ xs)
    (h₂ : Follows p₂ p₃ ys) : Follows p₁ p₃ (xs ++ ys) where
  numerus := h₂.numerus.trans h₁.numerus
  plain hp := h₂.plain (h₁.plain hp)
  locations := by
    obtain ⟨L₁, hL₁, hf₁⟩ := h₁.locations
    obtain ⟨L₂, hL₂, hf₂⟩ := h₂.locations
    exact ⟨L₁ ++ L₂, by rw [hL₂, hL₁, List.append_assoc],
      by rw [tagsNamed_append]; exact List.rel_append hf₁ hf₂⟩
  untranslated ht := by
    rw [tagsNamed_append, List.append_eq_nil_iff] at ht
    obtain ⟨hx, hy⟩ := h₂.untranslated ht.2
    obtain ⟨hx', hy'⟩ := h₁.untranslated ht.1
    exact ⟨hx.trans hx', hy.trans hy'⟩
  translated tr htr := by
    rw [tagsNamed_append, List.getLast?_append] at htr
    cases hlast : (tagsNamed "translation" ys).getLast? with
    | some tr' =>
      rw [hlast, Option.some_or] at htr
      cases htr
      exact h₂.translated tr hlast
    | none =>
      -- no `translation` in the second body: the first decides
      rw [hlast, Option.none_or] at htr
      obtain ⟨hx, hy⟩ := h₂.untranslated (List.getLast?_eq_none_iff.1 hlast)
      obtain ⟨hx', hy'⟩ := h₁.translated tr htr
      exact ⟨hx.trans hx', hy ▸ hy'⟩

theorem complete_locations (p : PendingEntry) : p.complete.locations = p.entry.locations := by
  unfold complete
  split <;> split <;> rfl

theorem complete_isPlural (p : PendingEntry) (h : p.entry.target.isPlural = false) :
    p.complete.target.isPlural = p.numerus := by
  unfold complete
  split <;> split <;> simp_all [Target.isPlural]

theorem complete_status (p : PendingEntry) :
    p.complete.status = if p.hasTarget then p.entry.status else .unfinished := by
  unfold complete
  split <;> split <;> simp_all

/-- An entry that starts fresh at its `message` tag and follows the events inside the element is
read from that element. -/
theorem complete_readFrom {t : Tag} {numerus : Option String}
    (hn : Assembly.attrValue t "numerus" = .ok numerus) {body : List Event} {p : PendingEntry}
    (h : Follows { numerus := numerus == some "yes" } p body) : p.complete.ReadFrom t body where
  locations := by
    obtain ⟨L, hL, hf⟩ := h.locations
    rw [complete_locations, hL]
    exact hf
  plural := by
    rw [complete_isPlural p (h.plain rfl), h.numerus, hn]
    simp
  status := by
    split
    · rename_i hnone
      obtain ⟨hx, -⟩ := h.untranslated (List.getLast?_eq_none_iff.1 hnone)
      simp [complete_status, hx]
    · rename_i tr hlast
      obtain ⟨hx, hy⟩ := h.translated tr hlast
      simp [complete_status, hx, hy]

end PendingEntry

/-! ## What one event does -/

namespace Assembly

/-- The contexts the document holds so far. -/
def contexts (a : Assembly) : List Context :=
  (a.document.map Document.contexts).getD []

/-- What a start tag can do: begin the document, a context or an entry, add a location or set the
status of the entry, or at most begin a text capture. -/
theorem startElement_cases {a a' : Assembly} {t : Tag} (h : a.startElement t = .ok a') :
    (t.localName = "TS" ∧ a.document = none ∧
      ∃ D : Document, D.contexts = [] ∧ a' = { a with document := some D }) ∨
    (t.localName = "context" ∧ a.document.isSome ∧ a.context = none ∧
      a' = { a with context := some {} }) ∨
    (t.localName = "message" ∧ a.context.isSome ∧ a.pending = none ∧
      ∃ numerus, attrValue t "numerus" = .ok numerus ∧
        a' = { a with pending := some { numerus := numerus == some "yes" } }) ∨
    (t.localName = "location" ∧ a.pending.isSome ∧ ∃ loc, loc.OfTag t ∧
      a' = a.withPending fun p => { p with entry := { p.entry with locations := p.entry.locations ++ [loc] } }) ∨
    (t.localName = "translation" ∧ a.pending.isSome ∧ ∃ st, t.status? = some st ∧
      (a' = a.withPending (fun p => { p with entry := { p.entry with status := st }, hasTarget := true }) ∨
        a' = (a.withPending fun p =>
          { p with entry := { p.entry with status := st }, hasTarget := true }).resetBuffer)) ∨
    (t.localName ∉ ["TS", "context", "message", "location", "translation"] ∧
      (a' = a ∨ a' = a.resetBuffer)) := by
  unfold startElement at h
  split at h
  · -- `TS`
    rename_i htag
    split at h
    · cases h
    · rename_i hnone
      obtain ⟨version, -, h⟩ := bind_eq_ok h
      obtain ⟨language, -, h⟩ := bind_eq_ok h
      obtain ⟨source, -, h⟩ := bind_eq_ok h
      cases h
      exact .inl ⟨htag, Option.not_isSome_iff_eq_none.1 hnone, _, rfl, rfl⟩
  · -- `context`
    rename_i htag
    split at h
    · cases h
    · rename_i hcond
      cases h
      simp only [Bool.or_eq_true, Option.isNone_iff_eq_none, not_or] at hcond
      refine .inr (.inl ⟨htag, ?_, ?_, rfl⟩)
      · exact Option.isSome_iff_ne_none.2 hcond.1.1
      · exact Option.not_isSome_iff_eq_none.1 hcond.1.2
  case h_3 | h_6 | h_7 | h_8 | h_9 =>
    -- `name` and the texts of an entry other than its translation: at most a text capture
    rename_i htag
    cases h
    refine .inr (.inr (.inr (.inr (.inr ⟨by simp [htag], ?_⟩))))
    split
    · exact .inr rfl
    · exact .inl rfl
  · -- `message`
    rename_i htag
    split at h
    · cases h
    · rename_i hcond
      obtain ⟨numerus, hnumerus, h⟩ := bind_eq_ok h
      cases h
      simp only [Bool.or_eq_true, Option.isNone_iff_eq_none, not_or] at hcond
      exact .inr (.inr (.inl ⟨htag, Option.isSome_iff_ne_none.2 hcond.1,
        Option.not_isSome_iff_eq_none.1 hcond.2, numerus, hnumerus, rfl⟩))
  · -- `location`
    rename_i htag
    split at h
    · cases h
    · rename_i p hp
      obtain ⟨file, hfile, h⟩ := bind_eq_ok h
      obtain ⟨line, hline, h⟩ := map_eq_ok h
      subst h
      exact .inr (.inr (.inr (.inl ⟨htag, by simp [hp], _, ⟨file, line, hfile, hline, rfl⟩, rfl⟩)))
  · -- `translation`
    rename_i htag
    split at h
    · cases h
    · rename_i p hp
      obtain ⟨kind, hkind, h⟩ := bind_eq_ok h
      split at h
      · cases h
      · rename_i st hst
        cases h
        refine .inr (.inr (.inr (.inr (.inl ⟨htag, by simp [hp], st, by simp [Tag.status?, hkind, hst], ?_⟩))))
        split
        · exact .inl rfl
        · exact .inr rfl
  · -- `numerusform`
    rename_i htag
    split at h
    · cases h
    · cases h
      refine .inr (.inr (.inr (.inr (.inr ⟨by simp [htag], ?_⟩))))
      split
      · exact .inr rfl
      · exact .inl rfl
  · -- any other element
    cases h
    refine .inr (.inr (.inr (.inr (.inr ⟨?_, .inl rfl⟩))))
    simp_all

/-- The reader keeps what the elements decide: the document, whether it is closed, the entries of
the context, and the parts of the entry that its elements decide. -/
def Keeps (a a' : Assembly) : Prop :=
  a'.document = a.document ∧ a'.closed = a.closed ∧
    a'.context.map Context.entries = a.context.map Context.entries ∧
    (∀ p, a.pending = some p → ∃ p', a'.pending = some p' ∧ p.Keeps p') ∧
    (a.pending = none → a'.pending = none)

theorem Keeps.refl (a : Assembly) : a.Keeps a :=
  ⟨rfl, rfl, rfl, fun p hp => ⟨p, hp, .refl p⟩, id⟩

theorem Keeps.trans {a₁ a₂ a₃ : Assembly} (h₁ : a₁.Keeps a₂) (h₂ : a₂.Keeps a₃) : a₁.Keeps a₃ := by
  refine ⟨h₂.1.trans h₁.1, h₂.2.1.trans h₁.2.1, h₂.2.2.1.trans h₁.2.2.1, fun p hp => ?_,
    fun hp => h₂.2.2.2.2 (h₁.2.2.2.2 hp)⟩
  obtain ⟨p₂, hp₂, hk₂⟩ := h₁.2.2.2.1 p hp
  obtain ⟨p₃, hp₃, hk₃⟩ := h₂.2.2.2.1 p₂ hp₂
  exact ⟨p₃, hp₃, hk₂.trans hk₃⟩

theorem keeps_buffer (a : Assembly) (b : Option String) : a.Keeps { a with buffer := b } :=
  Keeps.refl a

theorem keeps_withPending (a : Assembly) {f : PendingEntry → PendingEntry}
    (hf : ∀ p : PendingEntry, p.Keeps (f p)) : a.Keeps (a.withPending f) := by
  refine ⟨rfl, rfl, rfl, fun p hp => ⟨f p, by simp [withPending, hp], hf p⟩, fun hp => ?_⟩
  simp [withPending, hp]

theorem keeps_rename {a : Assembly} {c : Context} (hc : a.context = some c) (name : String) :
    a.Keeps { a with context := some { c with name := name } } :=
  ⟨rfl, rfl, by simp [hc], fun p hp => ⟨p, hp, .refl p⟩, id⟩

/-- The end of any element but `TS`, `context` and `message` keeps what the elements decide. -/
theorem endElement_keeps (a : Assembly) {n : String} (hn : n ∉ ["TS", "context", "message"]) :
    a.Keeps (a.endElement n) := by
  have htaken : a.Keeps { a with buffer := none } := keeps_buffer a none
  have hpend (f : PendingEntry → PendingEntry) (hf : ∀ p : PendingEntry, p.Keeps (f p)) :
      a.Keeps ({ a with buffer := none }.withPending f) :=
    htaken.trans (keeps_withPending _ hf)
  unfold endElement
  split
  · -- `name` renames the context
    split
    · rename_i c text hc _
      exact htaken.trans (keeps_rename hc text)
    · exact htaken
  all_goals first
    | (split
       · exact hpend _ fun p => ⟨rfl, rfl, rfl, rfl, fun _ => rfl⟩
       · exact htaken)
    | (split
       · exact hpend _ fun p => ⟨rfl, rfl, rfl, rfl, id⟩
       · exact htaken)
    | exact Keeps.refl a
    | simp at hn

theorem Keeps.context_isSome {a a' : Assembly} (h : a.Keeps a') : a'.context.isSome = a.context.isSome := by
  have := congrArg Option.isSome h.2.2.1
  simpa using this

/-- The context of a kept assembly holds the entries it held. -/
theorem Keeps.context_entries {a a' : Assembly} (h : a.Keeps a') {c : Context} (hc : a.context = some c) :
    ∃ c', a'.context = some c' ∧ c'.entries = c.entries := by
  have := h.2.2.1
  rw [hc, Option.map_some] at this
  exact Option.map_eq_some_iff.1 this

/-- Character data, CDATA and asides touch only the text buffer. -/
theorem step_passes {a a' : Assembly} {ev : Event} (hopen : ev.opens? = none) (hclose : ∀ n, ev ≠ .close n)
    (h : a.step ev = .ok a') : a'.document = a.document ∧ a'.context = a.context ∧ a'.pending = a.pending := by
  cases ev with
  | start t => cases hopen
  | empty t => cases hopen
  | close n => exact absurd rfl (hclose n)
  | text raw =>
    simp only [step] at h
    split at h
    · cases h
      exact ⟨rfl, rfl, rfl⟩
    · cases h
  | cdata c =>
    cases h
    exact ⟨rfl, rfl, rfl⟩
  | aside =>
    cases h
    exact ⟨rfl, rfl, rfl⟩

theorem not_mem_of_not_mem_tags {n : String} (h : n ∉ ["TS", "context", "message", "location", "translation"]) :
    n ∉ ["TS", "context", "message"] := by
  simp only [List.mem_cons, List.not_mem_nil, or_false, not_or] at h ⊢
  exact ⟨h.1, h.2.1, h.2.2.1⟩

/-! ### Outside any context -/

/-- Outside any context, a start tag other than a `context` one begins no context and no entry
and adds no context to the document. -/
theorem startElement_outside {a a' : Assembly} {t : Tag} (hc : a.context = none)
    (hp : a.pending = none) (h : a.startElement t = .ok a') (hctx : t.localName ≠ "context") :
    t.localName ≠ "message" ∧ a'.contexts = a.contexts ∧ a'.context = none ∧ a'.pending = none := by
  rcases startElement_cases h with ⟨htag, hd, D, hD, rfl⟩ | ⟨htag, -⟩ | ⟨-, hcs, -⟩ |
      ⟨-, hps, -⟩ | ⟨-, hps, -⟩ | ⟨htag, rfl | rfl⟩
  · -- the document begins, holding no context yet
    exact ⟨by rw [htag]; decide, by simp [contexts, hd, hD], hc, hp⟩
  · exact absurd htag hctx
  · simp [hc] at hcs
  · simp [hp] at hps
  · simp [hp] at hps
  · exact ⟨fun h => by simp [h] at htag, rfl, hc, hp⟩
  · exact ⟨fun h => by simp [h] at htag, rfl, hc, hp⟩

/-- Outside any context, an end tag adds no context and begins nothing. -/
theorem endElement_outside {a : Assembly} (hc : a.context = none) (hp : a.pending = none) (n : String) :
    (a.endElement n).contexts = a.contexts ∧ (a.endElement n).context = none ∧
      (a.endElement n).pending = none := by
  unfold endElement
  split <;> (try split) <;> simp_all [contexts, withPending]

/-! ### Inside a context -/

/-- Inside a context and outside an entry, a start tag other than a `message` one keeps the
document, the context and the absence of an entry. -/
theorem startElement_in_context {a a' : Assembly} {t : Tag} (hc : a.context.isSome)
    (hp : a.pending = none) (hd : a.document.isSome) (h : a.startElement t = .ok a')
    (hmsg : t.localName ≠ "message") :
    t.localName ∉ ["TS", "context", "message"] ∧ a'.document = a.document ∧ a'.context = a.context ∧
      a'.pending = none := by
  rcases startElement_cases h with ⟨-, hd', -⟩ | ⟨-, -, hc', -⟩ | ⟨htag, -⟩ |
      ⟨-, hps, -⟩ | ⟨-, hps, -⟩ | ⟨htag, rfl | rfl⟩
  · simp [hd'] at hd
  · simp [hc'] at hc
  · exact absurd htag hmsg
  · simp [hp] at hps
  · simp [hp] at hps
  · exact ⟨not_mem_of_not_mem_tags htag, rfl, rfl, hp⟩
  · exact ⟨not_mem_of_not_mem_tags htag, rfl, rfl, hp⟩

theorem startElement_message {a a' : Assembly} {t : Tag} (h : a.startElement t = .ok a')
    (hmsg : t.localName = "message") :
    ∃ numerus, attrValue t "numerus" = .ok numerus ∧
      a' = { a with pending := some { numerus := numerus == some "yes" } } := by
  rcases startElement_cases h with ⟨htag, -⟩ | ⟨htag, -⟩ | ⟨-, -, -, hm⟩ | ⟨htag, -⟩ | ⟨htag, -⟩ |
      ⟨htag, -⟩
  · simp [hmsg] at htag
  · simp [hmsg] at htag
  · exact hm
  · simp [hmsg] at htag
  · simp [hmsg] at htag
  · simp [hmsg] at htag

theorem startElement_context {a a' : Assembly} {t : Tag} (h : a.startElement t = .ok a')
    (hctx : t.localName = "context") : a.document.isSome ∧ a' = { a with context := some {} } := by
  rcases startElement_cases h with ⟨htag, -⟩ | ⟨-, hd, -, rfl⟩ | ⟨htag, -⟩ | ⟨htag, -⟩ | ⟨htag, -⟩ |
      ⟨htag, -⟩
  · simp [hctx] at htag
  · exact ⟨hd, rfl⟩
  · simp [hctx] at htag
  · simp [hctx] at htag
  · simp [hctx] at htag
  · simp [hctx] at htag

/-- The end of an entry's element adds the entry to the context. -/
theorem endElement_message_adds {a : Assembly} {c : Context} {p : PendingEntry} (hc : a.context = some c)
    (hp : a.pending = some p) :
    a.endElement "message" =
      { a with context := some { c with entries := c.entries ++ [p.complete] }, pending := none } := by
  simp [endElement, hc, hp]

/-- The end of a context's element adds the context to the document. -/
theorem endElement_context_adds {a : Assembly} {D : Document} {c : Context} (hd : a.document = some D)
    (hc : a.context = some c) :
    a.endElement "context" =
      { a with document := some { D with contexts := D.contexts ++ [c] }, context := none } := by
  simp [endElement, hd, hc]

/-! ### Inside an entry -/

/-- Inside an entry, a start tag is none of `TS`, `context` and `message`, keeps the document and
the context, and adds to the entry what its element decides. -/
theorem startElement_in_message {a a' : Assembly} {t : Tag} {p : PendingEntry}
    (hp : a.pending = some p) (hc : a.context.isSome) (hd : a.document.isSome)
    (h : a.startElement t = .ok a') :
    t.localName ∉ ["TS", "context", "message"] ∧ a'.document = a.document ∧ a'.context = a.context ∧
      ∃ p', a'.pending = some p' ∧ p.Follows p' [.start t] := by
  rcases startElement_cases h with ⟨-, hd', -⟩ | ⟨-, -, hc', -⟩ | ⟨-, -, hps, -⟩ |
      ⟨htag, -, loc, hloc, rfl⟩ | ⟨htag, -, st, hst, hupd⟩ | ⟨htag, hupd⟩
  · simp [hd'] at hd
  · simp [hc'] at hc
  · simp [hp] at hps
  · -- a `location` adds its location
    refine ⟨by rw [htag]; decide, rfl, rfl,
      { p with entry := { p.entry with locations := p.entry.locations ++ [loc] } },
      by simp [withPending, hp], ?_⟩
    exact ⟨rfl, id, ⟨[loc], rfl, by simp [htag]; exact hloc⟩, fun _ => ⟨rfl, rfl⟩,
      fun tr htr => by simp [htag] at htr⟩
  · -- a `translation` sets the status
    have hfollows : p.Follows { p with entry := { p.entry with status := st }, hasTarget := true }
        [.start t] :=
      ⟨rfl, id, ⟨[], by simp, by simp [htag]⟩, fun ht => by simp [htag] at ht,
        fun tr htr => by simp [htag] at htr; exact ⟨rfl, htr ▸ hst⟩⟩
    refine ⟨by rw [htag]; decide, ?_⟩
    rcases hupd with rfl | rfl
    · exact ⟨rfl, rfl, _, by simp [withPending, hp], hfollows⟩
    · exact ⟨rfl, rfl, _, by simp [resetBuffer, withPending, hp], hfollows⟩
  · -- anything else leaves the entry as it is
    have hl : tagsNamed "location" [.start t] = [] := by
      simp only [tagsNamed_start, tagsNamed_nil]
      split
      · rename_i h; simp [h] at htag
      · rfl
    have ht : tagsNamed "translation" [.start t] = [] := by
      simp only [tagsNamed_start, tagsNamed_nil]
      split
      · rename_i h; simp [h] at htag
      · rfl
    refine ⟨not_mem_of_not_mem_tags htag, ?_⟩
    rcases hupd with rfl | rfl
    · exact ⟨rfl, rfl, p, hp, .of_keeps (.refl p) hl ht⟩
    · exact ⟨rfl, rfl, p, hp, .of_keeps (.refl p) hl ht⟩

/-- Reading the events inside a `message` element, from the entry `p` it began. The elements
opened inside it so far, `Y`, are none of `TS`, `context` and `message`; so the end tag that
closes the element is the first one at depth `Y.length`. The reader keeps the document and the
context's entries, and the entry follows the events; no `context` or `message` element lies
inside. -/
theorem feed_message_body {Y R : List String} {es : List Event}
    (hY : ∀ m ∈ Y, localName m ∉ ["TS", "context", "message"]) (hm : Matched (Y ++ R) es)
    {a a' : Assembly} {p : PendingEntry} (hp : a.pending = some p) (hc : a.context.isSome)
    (hd : a.document.isSome) (hfeed : feed (splitElement Y.length es).1 a = .ok a') :
    a'.document = a.document ∧ a'.context.map Context.entries = a.context.map Context.entries ∧
      tagsNamed "message" (splitElement Y.length es).1 = [] ∧
      tagsNamed "context" (splitElement Y.length es).1 = [] ∧
      ∃ p', a'.pending = some p' ∧ p.Follows p' (splitElement Y.length es).1 := by
  induction es generalizing Y a p with
  | nil =>
    cases hfeed
    exact ⟨rfl, rfl, rfl, rfl, p, hp, .refl p⟩
  | cons ev rest ih =>
    cases ev with
    | start t =>
      simp only [splitElement] at hfeed ⊢
      obtain ⟨a₁, h₁, hfeed⟩ := bind_eq_ok hfeed
      obtain ⟨hname, hd₁, hc₁, p₁, hp₁, hf₁⟩ := startElement_in_message hp hc hd h₁
      obtain ⟨hd', hc', hmsg, hctx, p', hp', hf'⟩ :=
        ih (Y := t.name :: Y) (List.forall_mem_cons.2 ⟨hname, hY⟩) hm.2 hp₁ (hc₁ ▸ hc) (hd₁ ▸ hd) hfeed
      simp only [List.length_cons] at hmsg hctx hf'
      have hne : ∀ k ∈ ["TS", "context", "message"], ¬t.localName = k := fun k hk h => hname (h ▸ hk)
      refine ⟨hd'.trans hd₁, by rw [hc', hc₁], ?_, ?_, p', hp', hf₁.trans hf'⟩
      · simp [hne "message" (by simp), hmsg]
      · simp [hne "context" (by simp), hctx]
    | close n =>
      cases Y with
      | nil =>
        simp only [List.length_nil, splitElement] at hfeed ⊢
        cases hfeed
        exact ⟨rfl, rfl, rfl, rfl, p, hp, .refl p⟩
      | cons y Y =>
        simp only [List.length_cons, splitElement] at hfeed ⊢
        obtain ⟨a₁, h₁, hfeed⟩ := bind_eq_ok hfeed
        obtain rfl : a.endElement (localName n) = a₁ := Except.ok.inj h₁
        -- the end tag closes the element opened last inside the entry
        obtain rfl : y = n := by simpa [Event.Fits] using hm.1
        have hk := endElement_keeps a (hY y List.mem_cons_self)
        obtain ⟨p₁, hp₁, hk₁⟩ := hk.2.2.2.1 p hp
        obtain ⟨hd', hc', hmsg, hctx, p', hp', hf'⟩ :=
          ih (fun m hm' => hY m (List.mem_cons_of_mem _ hm')) hm.2 hp₁
            (by rw [hk.context_isSome]; exact hc) (by rw [hk.1]; exact hd) hfeed
        exact ⟨hd'.trans hk.1, hc'.trans hk.2.2.1, hmsg, hctx, p', hp',
          (PendingEntry.Follows.of_keeps hk₁ rfl rfl : p.Follows p₁ [.close y]).trans hf'⟩
    | empty t =>
      simp only [splitElement_empty] at hfeed ⊢
      obtain ⟨a₁, h₁, hfeed⟩ := bind_eq_ok hfeed
      obtain ⟨b, hb, h₁⟩ := bind_eq_ok h₁
      obtain rfl : b.endElement t.localName = a₁ := Except.ok.inj h₁
      obtain ⟨hname, hdb, hcb, pb, hpb, hfb⟩ := startElement_in_message hp hc hd hb
      have hk := endElement_keeps b hname
      obtain ⟨p₁, hp₁, hk₁⟩ := hk.2.2.2.1 pb hpb
      obtain ⟨hd', hc', hmsg, hctx, p', hp', hf'⟩ :=
        ih hY hm.2 hp₁ (by rw [hk.context_isSome, hcb]; exact hc) (by rw [hk.1, hdb]; exact hd) hfeed
      have hne : ∀ k ∈ ["TS", "context", "message"], ¬t.localName = k := fun k hk h => hname (h ▸ hk)
      refine ⟨hd'.trans (hk.1.trans hdb), by rw [hc', hk.2.2.1, hcb], ?_, ?_, p', hp', ?_⟩
      · simp [hne "message" (by simp), hmsg]
      · simp [hne "context" (by simp), hctx]
      · have hfe : p.Follows pb [.empty t] := hfb.of_tags (by simp) (by simp)
        exact hfe.trans ((PendingEntry.Follows.of_keeps hk₁ rfl rfl : pb.Follows p₁ []).trans hf')
    | text raw | cdata c | aside =>
      simp only [splitElement_text, splitElement_cdata, splitElement_aside] at hfeed ⊢
      obtain ⟨a₁, h₁, hfeed⟩ := bind_eq_ok hfeed
      obtain ⟨hd₁, hc₁, hp₁⟩ := step_passes rfl (fun _ h => by cases h) h₁
      obtain ⟨hd', hc', hmsg, hctx, p', hp', hf'⟩ :=
        ih hY hm.2 (hp₁.trans hp) (hc₁ ▸ hc) (hd₁ ▸ hd) hfeed
      exact ⟨hd'.trans hd₁, by rw [hc', hc₁], hmsg, hctx, p', hp',
        (PendingEntry.Follows.of_keeps (.refl p) rfl rfl : p.Follows p [_]).trans hf'⟩

/-- The entries read from the `message` elements of a context's events. -/
abbrev EntriesFrom (E : List Entry) (body : List Event) : Prop :=
  List.Forall₂ (fun e (m : Tag × List Event) => e.ReadFrom m.1 m.2) E (elementsNamed "message" body)

/-- `feed_context_body` for fewer than `n` events. -/
theorem feed_context_body_bounded (n : Nat) {X S : List String} {es : List Event} (hlen : es.length < n)
    (hX : ∀ m ∈ X, localName m ∉ ["TS", "context", "message"]) (hm : Matched (X ++ S) es)
    {a a' : Assembly} {c : Context} (hc : a.context = some c) (hp : a.pending = none)
    (hd : a.document.isSome) (hfeed : feed (splitElement X.length es).1 a = .ok a') :
    a'.document = a.document ∧ a'.context.isSome ∧
      tagsNamed "context" (splitElement X.length es).1 = [] ∧
      ((splitElement X.length es).2.isSome → a'.pending = none ∧
        ∃ c', a'.context = some c' ∧ ∃ E, c'.entries = c.entries ++ E ∧
          EntriesFrom E (splitElement X.length es).1) := by
  -- strong induction on the number of events: after an entry's element the context goes on
  -- with the events after its end tag
  induction n generalizing X es a a' c with
  | zero => exact absurd hlen (Nat.not_lt_zero _)
  | succ n ih =>
  have hrest : ∀ {ev : Event} {rest : List Event}, es = ev :: rest → rest.length < n := by
    rintro ev rest rfl
    simpa using hlen
  cases es with
  | nil =>
    cases hfeed
    exact ⟨rfl, by simp [hc], rfl, fun h => by simp [splitElement] at h⟩
  | cons ev rest =>
    cases ev with
    | start t =>
      by_cases hmsg : t.localName = "message"
      · -- an entry begins: its element is read as an entry, and the context goes on after it
        simp only [splitElement] at hfeed ⊢
        obtain ⟨a₁, h₁, hfeed⟩ := bind_eq_ok hfeed
        obtain ⟨numerus, hnumerus, ha₁⟩ := startElement_message h₁ hmsg
        have hp₁ : a₁.pending = some { numerus := numerus == some "yes" } := by rw [ha₁]
        have hc₁ : a₁.context = some c := by rw [ha₁]; exact hc
        have hd₁ : a₁.document = a.document := by rw [ha₁]
        rcases hsplit : splitElement 0 rest with ⟨mb, _ | ⟨n, after⟩⟩
        · -- the entry's element is never closed: all that follows lies inside it
          have hall : splitElement (X.length + 1) rest = (rest, none) :=
            splitElement_unclosed (j := 0) (by rw [hsplit]) (Nat.zero_le _)
          have hmb : splitElement 0 rest = (rest, none) :=
            splitElement_unclosed (j := 0) (by rw [hsplit]) (Nat.le_refl 0)
          rw [hall] at hfeed ⊢
          obtain ⟨hd', hc', -, hctx, -⟩ := feed_message_body (Y := []) (fun _ h => by cases h) hm.2
            hp₁ (by simp [hc₁]) (by rw [hd₁]; exact hd) (by rw [List.length_nil, hmb]; exact hfeed)
          rw [List.length_nil, hmb] at hctx
          refine ⟨hd'.trans hd₁, ?_, by simp [hmsg, hctx], fun h => by simp at h⟩
          have := congrArg Option.isSome hc'
          simpa [hc₁] using this
        · -- the entry's element closes, and the context goes on after its end tag
          have hadd := splitElement_add hsplit X.length
          rw [Nat.zero_add] at hadd
          rw [hadd] at hfeed ⊢
          rw [feed_append] at hfeed
          obtain ⟨a₂, h₂, hfeed⟩ := bind_eq_ok hfeed
          obtain ⟨hd₂, hc₂, hmsgs, hctx, p', hp', hf'⟩ := feed_message_body (Y := []) (fun _ h => by cases h)
            hm.2 hp₁ (by simp [hc₁]) (by rw [hd₁]; exact hd) (by rw [List.length_nil, hsplit]; exact h₂)
          rw [List.length_nil, hsplit] at hmsgs hctx hf'
          obtain ⟨hnm, hafter⟩ := matched_splitElement (Y := []) hm.2 (by rw [List.length_nil, hsplit])
          obtain rfl : t.name = n := by simpa using hnm
          obtain ⟨c₂, hc₂', hce⟩ : ∃ c₂, a₂.context = some c₂ ∧ c₂.entries = c.entries := by
            simp only [hc₁, Option.map_some] at hc₂
            obtain ⟨c₂, hc₂', hce⟩ := Option.map_eq_some_iff.1 hc₂
            exact ⟨c₂, hc₂', hce⟩
          rw [feed_cons] at hfeed
          obtain ⟨a₃, h₃, hfeed⟩ := bind_eq_ok hfeed
          obtain rfl : a₂.endElement t.localName = a₃ := Except.ok.inj h₃
          rw [hmsg, endElement_message_adds hc₂' hp'] at hfeed
          have hlen' : after.length < n := by
            have := hrest rfl
            rw [splitElement_decompose hsplit] at this
            simp at this
            omega
          obtain ⟨hd', hc', hctx', hclosed⟩ := ih hlen' hX hafter rfl rfl
            (by rw [hd₂, hd₁]; exact hd) hfeed
          refine ⟨hd'.trans (hd₂.trans hd₁), hc', by simp [hmsg, hctx, hctx'], fun h => ?_⟩
          obtain ⟨hp'', c', hc'', E, hE, hF⟩ := hclosed h
          refine ⟨hp'', c', hc'', p'.complete :: E, by rw [hE, hce]; simp, ?_⟩
          -- the entry's element comes first among the `message` elements, and none lies inside it
          have hel : elementsNamed "message" (.start t :: (mb ++ .close t.name :: (splitElement X.length after).1)) =
              (t, mb) :: elementsNamed "message" (splitElement X.length after).1 := by
            rw [elementsNamed, if_pos hmsg, splitElement_body_append hsplit,
              elementsNamed_append_of_tagsNamed hmsgs]
            rfl
          rw [EntriesFrom, hel]
          exact .cons (PendingEntry.complete_readFrom hnumerus hf') hF
      · -- any other element is transparent
        simp only [splitElement] at hfeed ⊢
        obtain ⟨a₁, h₁, hfeed⟩ := bind_eq_ok hfeed
        obtain ⟨hname, hd₁, hc₁, hp₁⟩ := startElement_in_context (by simp [hc]) hp hd h₁ hmsg
        obtain ⟨hd', hc', hctx, hclosed⟩ := ih (hrest rfl) (X := t.name :: X)
          (List.forall_mem_cons.2 ⟨hname, hX⟩) hm.2 (hc₁.trans hc) hp₁ (by rw [hd₁]; exact hd) hfeed
        simp only [List.length_cons] at hctx hclosed
        have hctxt : t.localName ≠ "context" := fun h => hname (by simp [h])
        refine ⟨hd'.trans hd₁, hc', by simp [hctxt, hctx], fun h => ?_⟩
        obtain ⟨hp', c', hc'', E, hE, hF⟩ := hclosed h
        exact ⟨hp', c', hc'', E, hE, by simpa [EntriesFrom, elementsNamed, hmsg] using hF⟩
    | close n =>
      cases X with
      | nil =>
        simp only [List.length_nil, splitElement] at hfeed ⊢
        cases hfeed
        exact ⟨rfl, by simp [hc], rfl, fun _ => ⟨hp, c, hc, [], by simp, .nil⟩⟩
      | cons x X =>
        simp only [List.length_cons, splitElement] at hfeed ⊢
        obtain ⟨a₁, h₁, hfeed⟩ := bind_eq_ok hfeed
        obtain rfl : a.endElement (localName n) = a₁ := Except.ok.inj h₁
        -- the end tag closes the element opened last inside the context
        obtain rfl : x = n := by simpa [Event.Fits] using hm.1
        have hk := endElement_keeps a (hX x List.mem_cons_self)
        obtain ⟨c₁, hc₁, hce⟩ := hk.context_entries hc
        obtain ⟨hd', hc', hctx, hclosed⟩ := ih (hrest rfl) (fun m hm' => hX m (List.mem_cons_of_mem _ hm'))
          hm.2 hc₁ (hk.2.2.2.2 hp) (by rw [hk.1]; exact hd) hfeed
        refine ⟨hd'.trans hk.1, hc', hctx, fun h => ?_⟩
        obtain ⟨hp', c', hc'', E, hE, hF⟩ := hclosed h
        exact ⟨hp', c', hc'', E, by rw [hE, hce], hF⟩
    | empty t =>
      simp only [splitElement_empty] at hfeed ⊢
      obtain ⟨a₁, h₁, hfeed⟩ := bind_eq_ok hfeed
      obtain ⟨b, hb, h₁⟩ := bind_eq_ok h₁
      obtain rfl : b.endElement t.localName = a₁ := Except.ok.inj h₁
      by_cases hmsg : t.localName = "message"
      · -- an empty entry element adds an entry at once
        obtain ⟨numerus, hnumerus, hb'⟩ := startElement_message hb hmsg
        have hcb : b.context = some c := by rw [hb']; exact hc
        rw [hmsg, endElement_message_adds hcb (by rw [hb'])] at hfeed
        obtain ⟨hd', hc', hctx, hclosed⟩ := ih (hrest rfl) hX hm.2 rfl rfl
          (by rw [hb']; exact hd) hfeed
        refine ⟨by rw [hd', hb'], hc', by simp [hmsg, hctx], fun h => ?_⟩
        obtain ⟨hp', c', hc'', E, hE, hF⟩ := hclosed h
        refine ⟨hp', c', hc'', ({ numerus := numerus == some "yes" } : PendingEntry).complete :: E,
          by rw [hE]; simp, ?_⟩
        rw [EntriesFrom, elementsNamed, if_pos hmsg]
        exact .cons (PendingEntry.complete_readFrom hnumerus (.refl _)) hF
      · obtain ⟨hname, hdb, hcb, hpb⟩ := startElement_in_context (by simp [hc]) hp hd hb hmsg
        have hk := endElement_keeps b hname
        obtain ⟨c₁, hc₁, hce⟩ := hk.context_entries (hcb.trans hc)
        obtain ⟨hd', hc', hctx, hclosed⟩ := ih (hrest rfl) hX hm.2 hc₁ (hk.2.2.2.2 hpb)
          (by rw [hk.1, hdb]; exact hd) hfeed
        have hctxt : t.localName ≠ "context" := fun h => hname (by simp [h])
        refine ⟨hd'.trans (hk.1.trans hdb), hc', by simp [hctxt, hctx], fun h => ?_⟩
        obtain ⟨hp', c', hc'', E, hE, hF⟩ := hclosed h
        exact ⟨hp', c', hc'', E, by rw [hE, hce], by simpa [EntriesFrom, elementsNamed, hmsg] using hF⟩
    | text raw | cdata chars | aside =>
      simp only [splitElement_text, splitElement_cdata, splitElement_aside] at hfeed ⊢
      obtain ⟨a₁, h₁, hfeed⟩ := bind_eq_ok hfeed
      obtain ⟨hd₁, hc₁, hp₁⟩ := step_passes rfl (fun _ h => by cases h) h₁
      obtain ⟨hd', hc', hctx, hclosed⟩ := ih (hrest rfl) hX hm.2 (hc₁.trans hc) (hp₁.trans hp)
        (by rw [hd₁]; exact hd) hfeed
      exact ⟨hd'.trans hd₁, hc', hctx, fun h => by simpa [EntriesFrom, elementsNamed] using hclosed h⟩

/-- Reading the events inside a `context` element, from the context `c` it holds, outside any
entry. The elements opened inside it so far, `X`, are none of `TS`, `context` and `message`; an
entry's element is read whole by `feed_message_body`. The reader keeps the document and the
context, and no `context` element lies inside. When the element is closed, no entry is open at
its end tag and the context has gained one entry per `message` element inside it. -/
theorem feed_context_body {X S : List String} {es : List Event}
    (hX : ∀ m ∈ X, localName m ∉ ["TS", "context", "message"]) (hm : Matched (X ++ S) es)
    {a a' : Assembly} {c : Context} (hc : a.context = some c) (hp : a.pending = none)
    (hd : a.document.isSome) (hfeed : feed (splitElement X.length es).1 a = .ok a') :
    a'.document = a.document ∧ a'.context.isSome ∧
      tagsNamed "context" (splitElement X.length es).1 = [] ∧
      ((splitElement X.length es).2.isSome → a'.pending = none ∧
        ∃ c', a'.context = some c' ∧ ∃ E, c'.entries = c.entries ++ E ∧
          EntriesFrom E (splitElement X.length es).1) :=
  feed_context_body_bounded _ (Nat.lt_succ_self _) hX hm hc hp hd hfeed

/-- `feed_outside` for fewer than `n` events. -/
theorem feed_outside_bounded (n : Nat) {S : List String} {es : List Event} (hlen : es.length < n)
    (hm : Matched S es) {a z : Assembly} (hc : a.context = none) (hp : a.pending = none)
    (hfeed : feed es a = .ok z) (hz : z.context = none) :
    ∃ Cs, z.contexts = a.contexts ++ Cs ∧
      List.Forall₂ (fun c (k : Tag × List Event) => c.ReadFrom k.2) Cs (elementsNamed "context" es) := by
  -- strong induction on the number of events: after a context's element the reading goes on
  -- with the events after its end tag
  induction n generalizing S es a with
  | zero => exact absurd hlen (Nat.not_lt_zero _)
  | succ n ih =>
  have hrest : ∀ {ev : Event} {rest : List Event}, es = ev :: rest → rest.length < n := by
    rintro ev rest rfl
    simpa using hlen
  cases es with
  | nil =>
    cases hfeed
    exact ⟨[], by simp, .nil⟩
  | cons ev rest =>
    rw [feed_cons] at hfeed
    obtain ⟨a₁, h₁, hnext⟩ := bind_eq_ok hfeed
    clear hfeed
    cases ev with
    | start t =>
      by_cases hctx : t.localName = "context"
      · -- a context begins: its element is read as a context, and the reading goes on after it
        obtain ⟨hd, ha₁⟩ := startElement_context h₁ hctx
        have hc₁ : a₁.context = some {} := by rw [ha₁]
        have hp₁ : a₁.pending = none := by rw [ha₁]; exact hp
        have hd₁ : a₁.document = a.document := by rw [ha₁]
        rcases hsplit : splitElement 0 rest with ⟨cb, _ | ⟨n', after⟩⟩
        · -- the context's element is never closed: the context is still open at the end
          have hall : splitElement 0 rest = (rest, none) :=
            splitElement_unclosed (j := 0) (by rw [hsplit]) (Nat.le_refl 0)
          obtain ⟨-, hz', -⟩ := feed_context_body (X := []) (fun _ h => by cases h) hm.2 hc₁ hp₁
            (by rw [hd₁]; exact hd) (by rw [List.length_nil, hall]; exact hnext)
          simp [hz] at hz'
        · have hsplit' := splitElement_decompose hsplit
          have hlen' : after.length < n := by
            have := hrest rfl
            rw [hsplit'] at this
            simp at this
            omega
          rw [hsplit', feed_append] at hnext
          obtain ⟨a₂, h₂, hnext⟩ := bind_eq_ok hnext
          obtain ⟨hd₂, -, hctx₂, hclosed⟩ := feed_context_body (X := []) (fun _ h => by cases h) hm.2
            hc₁ hp₁ (by rw [hd₁]; exact hd) (by rw [List.length_nil, hsplit]; exact h₂)
          rw [List.length_nil, hsplit] at hctx₂ hclosed
          obtain ⟨hp₂, c', hc', E, hE, hF⟩ := hclosed rfl
          obtain ⟨hnm, hafter⟩ := matched_splitElement (Y := []) hm.2 (by rw [List.length_nil, hsplit])
          obtain rfl : t.name = n' := by simpa using hnm
          obtain ⟨D, hD⟩ := Option.isSome_iff_exists.1 hd
          rw [feed_cons] at hnext
          obtain ⟨a₃, h₃, hnext⟩ := bind_eq_ok hnext
          obtain rfl : a₂.endElement t.localName = a₃ := Except.ok.inj h₃
          rw [hctx] at hnext
          -- the end tag closes the context's element: the document gains the context
          have hend := endElement_context_adds (hd₂.trans (hd₁.trans hD)) hc'
          have hc₃ : (a₂.endElement "context").context = none := by rw [hend]
          have hp₃ : (a₂.endElement "context").pending = none := by rw [hend]; exact hp₂
          have hcs₃ : (a₂.endElement "context").contexts = a.contexts ++ [c'] := by
            rw [hend]
            simp [contexts, hD]
          obtain ⟨Cs, hCs, hread⟩ := ih hlen' hafter hc₃ hp₃ hnext
          refine ⟨c' :: Cs, by rw [hCs, hcs₃]; simp, ?_⟩
          -- the context's element comes first among the `context` elements, and none lies inside it
          rw [elementsNamed, if_pos hctx, hsplit, hsplit', elementsNamed_append_of_tagsNamed hctx₂]
          refine .cons ?_ hread
          simpa [Context.ReadFrom, hE] using hF
      · obtain ⟨hmsg, hcs, hc₁, hp₁⟩ := startElement_outside hc hp h₁ hctx
        obtain ⟨Cs, hCs, hread⟩ := ih (hrest rfl) hm.2 hc₁ hp₁ hnext
        exact ⟨Cs, by rw [hCs, hcs], by simpa [elementsNamed, hctx] using hread⟩
    | empty t =>
      obtain ⟨b, hb, h₁⟩ := bind_eq_ok h₁
      obtain rfl : b.endElement t.localName = a₁ := Except.ok.inj h₁
      by_cases hctx : t.localName = "context"
      · -- an empty context element adds an empty context at once
        obtain ⟨hd, hb'⟩ := startElement_context hb hctx
        obtain ⟨D, hD⟩ := Option.isSome_iff_exists.1 hd
        rw [hctx] at hnext
        have hend := endElement_context_adds (a := b) (by rw [hb']; exact hD) (by rw [hb'])
        have hc₁ : (b.endElement "context").context = none := by rw [hend]
        have hp₁ : (b.endElement "context").pending = none := by rw [hend, hb']; exact hp
        have hcs₁ : (b.endElement "context").contexts = a.contexts ++ [({} : Context)] := by
          rw [hend, hb']
          simp [contexts, hD]
        obtain ⟨Cs, hCs, hread⟩ := ih (hrest rfl) hm.2 hc₁ hp₁ hnext
        refine ⟨({} : Context) :: Cs, by rw [hCs, hcs₁]; simp, ?_⟩
        rw [elementsNamed, if_pos hctx]
        exact .cons .nil hread
      · obtain ⟨-, hcs, hcb, hpb⟩ := startElement_outside hc hp hb hctx
        obtain ⟨hcs', hc₁, hp₁⟩ := endElement_outside hcb hpb t.localName
        obtain ⟨Cs, hCs, hread⟩ := ih (hrest rfl) hm.2 hc₁ hp₁ hnext
        exact ⟨Cs, by rw [hCs, hcs', hcs], by simpa [elementsNamed, hctx] using hread⟩
    | close m =>
      obtain rfl : a.endElement (localName m) = a₁ := Except.ok.inj h₁
      obtain ⟨hcs, hc₁, hp₁⟩ := endElement_outside hc hp (localName m)
      obtain ⟨Cs, hCs, hread⟩ := ih (hrest rfl) hm.2 hc₁ hp₁ hnext
      exact ⟨Cs, by rw [hCs, hcs], by simpa [elementsNamed] using hread⟩
    | text raw | cdata chars | aside =>
      obtain ⟨hd₁, hc₁, hp₁⟩ := step_passes rfl (fun _ h => by cases h) h₁
      obtain ⟨Cs, hCs, hread⟩ := ih (hrest rfl) hm.2 (hc₁.trans hc) (hp₁.trans hp) hnext
      exact ⟨Cs, by rw [hCs]; simp [contexts, hd₁], by simpa [elementsNamed] using hread⟩

/-- Reading events outside any context, to an end where no context is open: the document gains
one context per `context` element, in order, each read from the events inside its element. -/
theorem feed_outside {S : List String} {es : List Event} (hm : Matched S es) {a z : Assembly}
    (hc : a.context = none) (hp : a.pending = none) (hfeed : feed es a = .ok z)
    (hz : z.context = none) :
    ∃ Cs, z.contexts = a.contexts ++ Cs ∧
      List.Forall₂ (fun c (k : Tag × List Event) => c.ReadFrom k.2) Cs (elementsNamed "context" es) :=
  feed_outside_bounded _ (Nat.lt_succ_self _) hm hc hp hfeed hz

theorem run_eq_ok {t : Trace} {a z : Assembly} (h : run t a = .ok z) :
    ∃ evs, t = Trace.prepend evs .done ∧ feed evs a = .ok z := by
  induction t generalizing a with
  | done =>
    cases h
    exact ⟨[], rfl, rfl⟩
  | fail e => cases h
  | event ev rest ih =>
    obtain ⟨b, hb, h⟩ := bind_eq_ok h
    obtain ⟨evs, rfl, hfeed⟩ := ih h
    exact ⟨ev :: evs, rfl, by rw [feed_cons, hb]; exact hfeed⟩

theorem finish_eq_ok {a : Assembly} {d : Document} (h : a.finish = .ok d) :
    a.pending = none ∧ a.context = none ∧ a.document = some d := by
  unfold finish at h
  split at h
  · cases h
  · rename_i hp
    split at h
    · cases h
    · rename_i hc
      split at h
      · rename_i d' hd
        split at h
        · cases h
          exact ⟨by simpa using hp, by simpa using hc, hd⟩
        · cases h
      · cases h

end Assembly

/-- Reading loses and repeats nothing: a document read from a text has one context per `context`
element of the text, in order. Each context has one entry per `message` element inside its
element, at any depth, in order; each entry one location per `location` element inside its
`message`, with its file and line; an entry has plural forms exactly when its `message` tag says
`numerus="yes"`, and its status is the one its last `translation` element names, or unfinished
without one. -/
theorem Document.read_keeps_elements {x : String} {d : Document} (h : Document.read x = .ok d) :
    ∃ evs, scan x = Trace.prepend evs .done ∧
      List.Forall₂ (fun c (k : Tag × List Event) => c.ReadFrom k.2) d.contexts
        (elementsNamed "context" evs) := by
  obtain ⟨z, hrun, hfinish⟩ := bind_eq_ok h
  obtain ⟨evs, hscan, hfeed⟩ := Assembly.run_eq_ok hrun
  obtain ⟨-, hc, hd⟩ := Assembly.finish_eq_ok hfinish
  obtain ⟨Cs, hCs, hread⟩ := Assembly.feed_outside (scan_matched hscan) rfl rfl hfeed hc
  have hcontexts : d.contexts = Cs := by
    simpa [Assembly.contexts, hd] using hCs
  exact ⟨evs, hscan, hcontexts ▸ hread⟩

/-- A plural entry with a location and an unfinished translation, read back element by element. -/
theorem Document.read_keeps_elements_plural :
    Document.read "<TS><context><message numerus=\"yes\"><location line=\"3\"/><translation type=\"unfinished\"/></message></context></TS>" =
        .ok { contexts := [{ entries := [{ target := .plural [], status := .unfinished,
                                           locations := [{ file := "", line := some (.absolute 3) }] }] }] } ∧
      ∃ evs, scan "<TS><context><message numerus=\"yes\"><location line=\"3\"/><translation type=\"unfinished\"/></message></context></TS>" =
          Trace.prepend evs .done ∧
        List.Forall₂ (fun (c : Context) (k : Tag × List Event) => c.ReadFrom k.2)
          [{ entries := [{ target := .plural [], status := .unfinished,
                           locations := [{ file := "", line := some (.absolute 3) }] }] }]
          (elementsNamed "context" evs) := by
  have h : Document.read "<TS><context><message numerus=\"yes\"><location line=\"3\"/><translation type=\"unfinished\"/></message></context></TS>" =
      .ok { contexts := [{ entries := [{ target := .plural [], status := .unfinished,
                                         locations := [{ file := "", line := some (.absolute 3) }] }] }] } := by
    have hopt : (Document.read "<TS><context><message numerus=\"yes\"><location line=\"3\"/><translation type=\"unfinished\"/></message></context></TS>").toOption =
        some { contexts := [{ entries := [{ target := .plural [], status := .unfinished,
                                            locations := [{ file := "", line := some (.absolute 3) }] }] }] } := by
      decide +kernel
    revert hopt
    cases Document.read "<TS><context><message numerus=\"yes\"><location line=\"3\"/><translation type=\"unfinished\"/></message></context></TS>" <;>
      simp [Except.toOption]
  exact ⟨h, Document.read_keeps_elements h⟩

end Phrasebook
