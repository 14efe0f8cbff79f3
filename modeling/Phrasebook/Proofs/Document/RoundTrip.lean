import Phrasebook.Proofs.Document.Reading
import Phrasebook.Proofs.Document.Line
import Phrasebook.Proofs.Document.Canonical

/-! # Writing a document and reading it back

Reading the text of a written document gives the document back, except that an optional text
that is empty (the language, the source language, an entry's disambiguation and comments)
comes back absent: it is written as an empty element or attribute, and the reader takes an
empty one for a missing one. Everything else comes back as it was: the order of contexts,
entries, locations and plural forms, every text, the version, each status, and each line of a
location, for every 32-bit value.

The proof has two halves. What the pen writes scans back into one event per piece, with the
line breaks between pieces as character data of their own (`Markup.scanFrom_written`). The
reader then meets those line breaks only while it holds no text, and assembles, piece group by
piece group, the canonical form of each entry, context and document.
-/

namespace Phrasebook

open Markup

/-! ## The pieces of a written document -/

/-- An element that holds an optional text, written only when the text is present. -/
def optionalElement (name : String) : Option String → List Piece
  | some t => textElement name t
  | none => []

/-- The start tag of an entry. -/
def Entry.opening (e : Entry) : Piece :=
  .start "message" (if e.target.isPlural then [("numerus", "yes")] else [])

/-- The `type` attribute of an entry's target. -/
def Entry.typeAttribute (e : Entry) : List (String × String) :=
  (e.status.typeValue.map fun k => ("type", k)).toList

/-- The pieces of an entry's target. -/
def Entry.targetPieces (e : Entry) : List Piece :=
  match e.target with
  | .plain t => [.start "translation" e.typeAttribute, .text t, .close "translation"]
  | .plural fs =>
    [.start "translation" e.typeAttribute] ++ fs.flatMap (textElement "numerusform") ++ [.close "translation"]

theorem Entry.pieces_eq (e : Entry) :
    e.pieces = e.opening :: (e.locations.map Location.piece ++ (textElement "source" e.source ++
      (optionalElement "comment" e.disambiguation ++ (optionalElement "extracomment" e.extraComment ++
        (optionalElement "translatorcomment" e.translatorComment ++
          (e.targetPieces ++ [.close "message"])))))) := by
  unfold pieces optionalElement targetPieces opening typeAttribute
  cases e.target <;> cases e.disambiguation <;> cases e.extraComment <;> cases e.translatorComment <;> simp

/-- The pieces of a document, as the pen writes them. -/
def Document.pieces (d : Document) : List Piece :=
  [.declaration "xml version=\"1.0\" encoding=\"utf-8\"", .doctype "TS", .start "TS" d.rootAttributes]
    ++ d.contexts.flatMap Context.pieces ++ [.close "TS"]

theorem Document.render_eq (d : Document) : d.render = layout d.pieces ++ "\n" := rfl

/-! ## The written pieces scan back -/

section Layable

variable (st : List String)

theorem layable_textElement {n : String} (hn : PlainName n) (t : String) :
    Layable st (textElement n t) st :=
  .markup ⟨hn, by simp, rfl⟩ (.text t ⟨hn, rfl⟩ (.nil st))

theorem layable_flatMap {α : Type} (f : α → List Piece) (xs : List α) (h : ∀ x ∈ xs, Layable st (f x) st) :
    Layable st (xs.flatMap f) st := by
  induction xs with
  | nil => exact .nil st
  | cons x xs ih =>
    rw [List.flatMap_cons]
    exact (h x List.mem_cons_self).append (ih fun y hy => h y (List.mem_cons_of_mem x hy))

theorem layable_optionalElement {n : String} (hn : PlainName n) (o : Option String) :
    Layable st (optionalElement n o) st := by
  cases o with
  | none => exact .nil st
  | some t => exact layable_textElement st hn t

theorem Entry.layable (e : Entry) : Layable st e.pieces st := by
  have message := (by decide : PlainName "message")
  have translation := (by decide : PlainName "translation")
  have hopen : e.opening.Steps st ("message" :: st) := by
    refine ⟨message, ?_, rfl⟩
    split <;> simp [(by decide : PlainName "numerus")]
  have htype : ∀ kv ∈ e.typeAttribute, PlainName kv.1 := by
    intro kv hkv
    cases h : e.status.typeValue <;> simp_all [typeAttribute, (by decide : PlainName "type")]
  have hlocations : Layable ("message" :: st) (e.locations.map Location.piece) ("message" :: st) := by
    induction e.locations with
    | nil => exact .nil _
    | cons l ls ih =>
      refine .markup ⟨(by decide), ?_, rfl⟩ ih
      cases l.line <;> simp [(by decide : PlainName "filename"), (by decide : PlainName "line")]
  have htarget : Layable ("message" :: st) e.targetPieces ("message" :: st) := by
    unfold targetPieces
    split
    · exact .markup ⟨translation, htype, rfl⟩ (.text _ ⟨translation, rfl⟩ (.nil _))
    · refine .markup ⟨translation, htype, rfl⟩ ((layable_flatMap _ _ _ fun f _ =>
        layable_textElement _ (by decide) f).append (.markup ⟨translation, rfl⟩ (.nil _)))
  rw [pieces_eq]
  exact .markup hopen (hlocations.append ((layable_textElement _ (by decide) _).append
    ((layable_optionalElement _ (by decide) _).append
      ((layable_optionalElement _ (by decide) _).append
        ((layable_optionalElement _ (by decide) _).append
          (htarget.append (.markup ⟨message, rfl⟩ (.nil st))))))))

theorem Context.layable (c : Context) : Layable st c.pieces st := by
  have context := (by decide : PlainName "context")
  exact .markup ⟨context, by simp, rfl⟩ ((layable_textElement _ (by decide) _).append
    ((layable_flatMap _ _ _ fun e _ => e.layable _).append (.markup ⟨context, rfl⟩ (.nil st))))

end Layable

theorem Document.rootAttributes_plain (d : Document) : ∀ kv ∈ d.rootAttributes, PlainName kv.1 := by
  intro kv hkv
  simp only [rootAttributes, List.mem_append, List.mem_singleton, Option.mem_toList,
    Option.map_eq_some_iff] at hkv
  rcases hkv with (rfl | ⟨l, -, rfl⟩) | ⟨l, -, rfl⟩
  · exact (by decide : PlainName "version")
  · exact (by decide : PlainName "language")
  · exact (by decide : PlainName "sourcelanguage")

theorem Document.layable (d : Document) : Layable [] d.pieces [] := by
  have root := (by decide : PlainName "TS")
  exact .markup ⟨by decide, rfl⟩ (.markup ⟨by decide, by decide, ⟨'T', by simp, rfl⟩, rfl⟩
    (.markup ⟨root, d.rootAttributes_plain, rfl⟩ ((layable_flatMap _ _ _ fun c _ => c.layable _).append
      (.markup ⟨root, rfl⟩ (.nil [])))))

/-- A written document is scanned into the events of its pieces, then its final line break. -/
theorem Document.scan_render (d : Document) :
    scan d.render = Trace.prepend (({} : Pen).events d.pieces) (.event (.text ['\n']) .done) := by
  have hlayout : layout d.pieces = ({} : Pen).written d.pieces := by
    rw [layout, Pen.foldl_put_out]
    simp
  have hwritten := scanFrom_written d.layable {} ['\n']
  have hend : scanFrom [] [] ['\n'] = .event (.text ['\n']) .done := by
    rw [scanFrom, if_neg (by decide), scanFrom]
    rfl
  -- the text starts with the declaration's `<`, so there is no byte order mark to skip
  have hhead : (d.render).toList.head? = some '<' := by
    rw [render_eq, hlayout, pieces, List.append_assoc, List.cons_append, Pen.written]
    simp [Pen.lead, Piece.markup, String.toList_append]
  obtain ⟨cs, hcs⟩ := List.head?_eq_some_iff.mp hhead
  rw [scan, hcs]
  dsimp only
  rw [if_neg (by decide), ← hcs, render_eq, hlayout, String.toList_append, show "\n".toList = ['\n'] from rfl,
    hwritten, hend]

/-! ## Reading the pieces back -/

theorem Status.ofAttribute_typeValue (st : Status) : Status.ofAttribute st.typeValue = some st := by
  cases st <;> rfl

/-- The entry read so far when its target comes: everything but its status and target. -/
def Entry.heading (e : Entry) : PendingEntry :=
  { entry := { source := e.source, disambiguation := dropEmpty e.disambiguation,
               extraComment := dropEmpty e.extraComment, translatorComment := dropEmpty e.translatorComment,
               locations := e.locations },
    numerus := e.target.isPlural }

namespace Assembly

/-- The reader inside document `d`, between its contexts. -/
def inDocument (d : Document) : Assembly := { document := some d }

/-- The reader inside context `c` of document `d`, between its entries. -/
def inContext (d : Document) (c : Context) : Assembly := { document := some d, context := some c }

/-- The reader inside the entry `pe` of context `c`, between the parts of the entry. -/
def inEntry (d : Document) (c : Context) (pe : PendingEntry) : Assembly :=
  { document := some d, context := some c, pending := some pe }

/-- Groups of pieces read one after another, each adding one item to what the reader holds. -/
theorem feed_events_flatMap {α β : Type} (g : α → List Piece) (item : α → β) (state : List β → Assembly)
    (h : ∀ (q : Pen) x acc, feed (q.events (g x)) (state acc) = .ok (state (acc ++ [item x])))
    (xs : List α) (q : Pen) (acc : List β) :
    feed (q.events (xs.flatMap g)) (state acc) = .ok (state (acc ++ xs.map item)) := by
  induction xs generalizing q acc with
  | nil => simp [Pen.events]
  | cons x xs ih =>
    rw [List.flatMap_cons, feed_events_append, h, ok_bind, ih]
    simp

section Entry

variable (d : Document) (c : Context)

theorem feed_opening (e : Entry) :
    feed e.opening.events (inContext d c) = .ok (inEntry d c { numerus := e.target.isPlural }) := by
  let attrs : List (String × String) := if e.target.isPlural then [("numerus", "yes")] else []
  have hk : ∀ kv ∈ attrs, PlainName kv.1 := by
    intro kv hkv
    by_cases hp : e.target.isPlural <;> simp [attrs, hp] at hkv
    rw [hkv]
    exact (by decide : PlainName "numerus")
  have hnumerus := attrValue_rendered "message" "numerus" attrs hk
  have hname : localName "message" = "message" := by decide
  rw [Entry.opening, Piece.events, feed_cons]
  by_cases hp : e.target.isPlural <;> simp_all [attrs, step, startElement, Tag.localName, inContext, inEntry]

theorem feed_location (q : Pen) (pe : PendingEntry) (l : Location) :
    feed (q.events [l.piece]) (inEntry d c pe) =
      .ok (inEntry d c { pe with entry := { pe.entry with locations := pe.entry.locations ++ [l] } }) := by
  obtain ⟨file, line⟩ := l
  let attrs := [("filename", file)] ++ (line.map fun n => ("line", n.render)).toList
  have hk : ∀ kv ∈ attrs, PlainName kv.1 := by
    intro kv hkv
    simp only [attrs, List.mem_append, List.mem_singleton, Option.mem_toList,
      Option.map_eq_some_iff] at hkv
    rcases hkv with rfl | ⟨n, -, rfl⟩
    · exact (by decide : PlainName "filename")
    · exact (by decide : PlainName "line")
  have hfile := attrValue_rendered "location" "filename" attrs hk
  have hline := attrValue_rendered "location" "line" attrs hk
  have hname : localName "location" = "location" := by decide
  have hparse : (line.map Line.render).bind (fun s => (Line.parse s).toOption) = line := by
    cases line <;> simp [Line.parse_render, Except.toOption]
  rw [feed_events_cons rfl, Location.piece, Piece.events, feed_cons]
  cases line <;> simp_all [attrs, step, startElement, endElement, Tag.localName, inEntry,
    withPending, Pen.events]

theorem feed_locations (q : Pen) (pe : PendingEntry) (ls : List Location) :
    feed (q.events (ls.map Location.piece)) (inEntry d c pe) =
      .ok (inEntry d c { pe with entry := { pe.entry with locations := pe.entry.locations ++ ls } }) := by
  have h := feed_events_flatMap (fun l => [Location.piece l]) id
    (fun locs => inEntry d c { pe with entry := { pe.entry with locations := locs } })
    (fun q l locs => by simpa using feed_location d c q _ l) ls q pe.entry.locations
  rw [List.map_id, ← List.map_eq_flatMap] at h
  exact h

theorem startElement_entryText (pe : PendingEntry) (n : String)
    (hn : n = "source" ∨ n = "comment" ∨ n = "extracomment" ∨ n = "translatorcomment") :
    (inEntry d c pe).startElement ⟨n, (n ++ renderAttributes []).toList⟩ = .ok (inEntry d c pe).resetBuffer := by
  rcases hn with rfl | rfl | rfl | rfl <;> rfl

theorem feed_source (q : Pen) (pe : PendingEntry) (s : String) :
    feed (q.events (textElement "source" s)) (inEntry d c pe) =
      .ok (inEntry d c { pe with entry := { pe.entry with source := s } }) := by
  rw [textElement, feed_element q "source" [] s rfl (startElement_entryText d c pe _ (.inl rfl)) rfl]
  rfl

/-- An optional text of an entry, stored by `set` when it is present; an empty one is stored as
absent. -/
theorem feed_optionalElement (q : Pen) (pe : PendingEntry) (n : String)
    (hn : n = "comment" ∨ n = "extracomment" ∨ n = "translatorcomment")
    (set : PendingEntry → Option String → PendingEntry)
    (hset : ∀ pe t, ({ (inEntry d c pe).resetBuffer with buffer := some t }).endElement (localName n) =
      inEntry d c (set pe (nonEmpty t)))
    (o : Option String) :
    feed (q.events (optionalElement n o)) (inEntry d c pe) =
      .ok (inEntry d c (o.elim pe fun t => set pe (nonEmpty t))) := by
  cases o with
  | none => rfl
  | some t =>
    rw [optionalElement, textElement,
      feed_element q n [] t rfl (startElement_entryText d c pe n (.inr hn)) rfl, hset]
    rfl

theorem attrValue_type (e : Entry) :
    attrValue ⟨"translation", ("translation" ++ renderAttributes e.typeAttribute).toList⟩ "type" =
      .ok e.status.typeValue := by
  have hk : ∀ kv ∈ e.typeAttribute, PlainName kv.1 := by
    intro kv hkv
    cases h : e.status.typeValue <;> simp_all [Entry.typeAttribute, (by decide : PlainName "type")]
  rw [attrValue_rendered _ _ _ hk]
  cases h : e.status.typeValue <;> simp [Entry.typeAttribute, h]

/-- The start of a target records the status; a target without plural forms begins a capture. -/
theorem startElement_translation (pe : PendingEntry) (e : Entry) :
    (inEntry d c pe).startElement ⟨"translation", ("translation" ++ renderAttributes e.typeAttribute).toList⟩ =
      .ok (if pe.numerus then inEntry d c { pe with entry := { pe.entry with status := e.status }, hasTarget := true }
        else (inEntry d c { pe with entry := { pe.entry with status := e.status }, hasTarget := true }).resetBuffer) := by
  have hname : localName "translation" = "translation" := by decide
  simp only [startElement, Tag.localName, hname, inEntry]
  rw [attrValue_type]
  simp [Status.ofAttribute_typeValue, withPending]
  rfl

theorem feed_numerusforms (q : Pen) (pe : PendingEntry) (hnum : pe.numerus = true) (fs : List String) :
    feed (q.events (fs.flatMap (textElement "numerusform"))) (inEntry d c pe) =
      .ok (inEntry d c { pe with forms := pe.forms ++ fs }) := by
  have hform : ∀ (q : Pen) f forms, feed (q.events (textElement "numerusform" f))
      (inEntry d c { pe with forms := forms }) = .ok (inEntry d c { pe with forms := forms ++ [f] }) := by
    intro q f forms
    have hstart : (inEntry d c { pe with forms := forms }).startElement
        ⟨"numerusform", ("numerusform" ++ renderAttributes []).toList⟩ =
          .ok (inEntry d c { pe with forms := forms }).resetBuffer := by
      simp [startElement, Tag.localName, inEntry, hnum, show localName "numerusform" = "numerusform" by decide]
    rw [textElement, feed_element q _ [] f rfl hstart rfl]
    simp [endElement, inEntry, resetBuffer, withPending, show localName "numerusform" = "numerusform" by decide]
  have h := feed_events_flatMap _ id (fun forms => inEntry d c { pe with forms := forms }) hform fs q pe.forms
  rw [List.map_id] at h
  exact h

/-- The target of an entry and the entry's end: the context gets the entry with its status and
target. -/
theorem feed_target_close (q : Pen) (e : Entry) :
    feed (q.events (e.targetPieces ++ [.close "message"])) (inEntry d c e.heading) =
      .ok (inContext d { c with entries := c.entries ++ [e.canonical] }) := by
  have hmessage : localName "message" = "message" := by decide
  have htranslation : localName "translation" = "translation" := by decide
  rw [feed_events_append]
  unfold Entry.targetPieces
  split
  · rename_i t ht
    have hnum : e.heading.numerus = false := by simp [Entry.heading, ht, Target.isPlural]
    rw [feed_element q _ _ t rfl (startElement_translation d c _ e) (by simp [hnum, resetBuffer]), ok_bind,
      feed_close _ _ (by simp [endElement, htranslation, withPending])]
    simp [endElement, htranslation, hmessage, inEntry, inContext, withPending, resetBuffer,
      PendingEntry.complete, Entry.heading, Entry.canonical, ht, Target.isPlural]
  · rename_i fs ht
    have hnum : e.heading.numerus = true := by simp [Entry.heading, ht, Target.isPlural]
    rw [List.append_assoc, List.singleton_append, feed_events_cons rfl, Piece.events, feed_cons, step,
      startElement_translation, if_pos hnum]
    simp only [ok_bind, feed_nil]
    rw [feed_events_append, feed_numerusforms d c _ _ (by simpa using hnum), ok_bind, feed_close _ _ rfl,
      ok_bind, feed_close _ _ (by simp [endElement, htranslation, inEntry])]
    simp [endElement, htranslation, hmessage, inEntry, inContext, PendingEntry.complete, Entry.heading, Entry.canonical, ht, Target.isPlural]

/-- The parts of an entry before its target: locations, source and the optional texts. -/
theorem feed_heading (q : Pen) (e : Entry) (rest : List Piece) :
    ∃ q' : Pen, feed (q.events (e.locations.map Location.piece ++ (textElement "source" e.source ++
        (optionalElement "comment" e.disambiguation ++ (optionalElement "extracomment" e.extraComment ++
          (optionalElement "translatorcomment" e.translatorComment ++ rest))))))
        (inEntry d c { numerus := e.target.isPlural }) = feed (q'.events rest) (inEntry d c e.heading) := by
  rw [feed_events_append, feed_locations, ok_bind, feed_events_append, feed_source, ok_bind,
    feed_events_append, feed_optionalElement d c _ _ "comment" (.inl rfl)
      (fun pe v => { pe with entry := { pe.entry with disambiguation := v } }) (fun _ _ => rfl), ok_bind,
    feed_events_append, feed_optionalElement d c _ _ "extracomment" (.inr (.inl rfl))
      (fun pe v => { pe with entry := { pe.entry with extraComment := v } }) (fun _ _ => rfl), ok_bind,
    feed_events_append, feed_optionalElement d c _ _ "translatorcomment" (.inr (.inr rfl))
      (fun pe v => { pe with entry := { pe.entry with translatorComment := v } }) (fun _ _ => rfl), ok_bind]
  refine ⟨_, congrArg _ (congrArg _ ?_)⟩
  -- each optional text is stored as `nonEmpty` of it, which is how `dropEmpty` reads a present one
  unfold Entry.heading
  cases e.disambiguation <;> cases e.extraComment <;> cases e.translatorComment <;> simp [← bind_nonEmpty]

/-- An entry is read back as its canonical form, at the end of its context's entries. -/
theorem feed_entry (q : Pen) (e : Entry) :
    feed (q.events e.pieces) (inContext d c) = .ok (inContext d { c with entries := c.entries ++ [e.canonical] }) := by
  obtain ⟨q', hheading⟩ := feed_heading d c (q.put e.opening) e (e.targetPieces ++ [.close "message"])
  rw [Entry.pieces_eq, feed_events_cons rfl, feed_opening, ok_bind, hheading, feed_target_close]

end Entry

theorem Context.pieces_eq (c : Context) :
    c.pieces = .start "context" [] :: (textElement "name" c.name ++
      (c.entries.flatMap Entry.pieces ++ [.close "context"])) := by
  simp [Context.pieces]

/-- A context is read back as its canonical form, at the end of the document's contexts. -/
theorem feed_context (q : Pen) (d : Document) (c : Context) :
    feed (q.events c.pieces) (inDocument d) = .ok (inDocument { d with contexts := d.contexts ++ [c.canonical] }) := by
  have hcontext : localName "context" = "context" := by decide
  have hname : localName "name" = "name" := by decide
  have hstart : feed (Piece.start "context" []).events (inDocument d) = .ok (inContext d {}) := by
    simp [Piece.events, feed_cons, step, startElement, Tag.localName, hcontext, inDocument, inContext]
  have hnamed : ∀ q : Pen, feed (q.events (textElement "name" c.name)) (inContext d {}) =
      .ok (inContext d { name := c.name }) := by
    intro q
    have hs : (inContext d {}).startElement ⟨"name", ("name" ++ renderAttributes []).toList⟩ =
        .ok (inContext d {}).resetBuffer := by
      simp [startElement, Tag.localName, hname, inContext]
    rw [textElement, feed_element q _ [] _ rfl hs rfl]
    simp [endElement, hname, inContext, resetBuffer]
  have hentries := feed_events_flatMap Entry.pieces Entry.canonical
    (fun es => inContext d { name := c.name, entries := es }) (fun q e es => feed_entry d _ q e)
  rw [Context.pieces_eq, feed_events_cons rfl, hstart, ok_bind, feed_events_append, hnamed, ok_bind,
    feed_events_append]
  rw [show inContext d { name := c.name } = inContext d { name := c.name, entries := [] } from rfl, hentries,
    ok_bind, feed_close _ _ rfl]
  simp [endElement, hcontext, inContext, inDocument, Context.canonical]

theorem feed_aside (a : Assembly) : feed [.aside] a = .ok a := rfl

theorem feed_document (d : Document) :
    feed (({} : Pen).events d.pieces) {} = .ok { inDocument d.canonical with closed := true } := by
  have hk := d.rootAttributes_plain
  have hroot : localName "TS" = "TS" := by decide
  let start : Document := { version := d.version, language := dropEmpty d.language,
                            sourceLanguage := dropEmpty d.sourceLanguage }
  have hstart : ({} : Assembly).startElement ⟨"TS", ("TS" ++ renderAttributes d.rootAttributes).toList⟩ =
      .ok (inDocument start) := by
    simp only [startElement, Tag.localName, hroot]
    rw [attrValue_rendered _ _ _ hk, attrValue_rendered _ _ _ hk, attrValue_rendered _ _ _ hk]
    unfold Document.rootAttributes
    cases hl : d.language <;> cases hs : d.sourceLanguage <;>
      simp [start, hl, hs, ← bind_nonEmpty, inDocument, Functor.map, Except.map]
  have hcontexts := feed_events_flatMap Context.pieces Context.canonical
    (fun cs => inDocument { start with contexts := cs }) (fun q c cs => feed_context q _ c)
  unfold Document.pieces
  rw [List.append_assoc, List.cons_append, List.cons_append, List.cons_append, List.nil_append,
    feed_events_cons rfl, Piece.events, feed_aside, ok_bind, feed_events_cons rfl, Piece.events, feed_aside,
    ok_bind, feed_events_cons rfl, Piece.events, feed_cons, step, hstart, ok_bind, feed_nil, ok_bind,
    feed_events_append, show inDocument start = inDocument { start with contexts := [] } from rfl, hcontexts,
    ok_bind, feed_close _ _ rfl]
  simp [endElement, hroot, inDocument, start, Document.canonical]

end Assembly

/-- Reading the text of a written document gives the document with its empty optional texts taken
as absent. -/
theorem Document.read_render (d : Document) : Document.read d.render = .ok d.canonical := by
  have hnewline : ({ Assembly.inDocument d.canonical with closed := true } : Assembly).step (.text ['\n']) =
      .ok { Assembly.inDocument d.canonical with closed := true } :=
    Assembly.step_plain_text rfl (by decide)
  rw [Document.read, scan_render, Assembly.run_prepend, Assembly.feed_document, ok_bind, Assembly.run, hnewline]
  rfl

/-- Writing a document and reading it back gives its canonical form; it gives the document itself
exactly when the document holds no empty optional text; and a document that was read is written
and read back unchanged. -/
theorem Document.read_render_roundTrip :
    (∀ d : Document, Document.read d.render = .ok d.canonical) ∧
    (∀ d : Document, Document.read d.render = .ok d ↔
      d.language ≠ some "" ∧ d.sourceLanguage ≠ some "" ∧ ∀ c ∈ d.contexts, ∀ e ∈ c.entries,
        e.disambiguation ≠ some "" ∧ e.extraComment ≠ some "" ∧ e.translatorComment ≠ some "") ∧
    (∀ (x : String) (d : Document), Document.read x = .ok d → Document.read d.render = .ok d) := by
  refine ⟨Document.read_render, fun d => ?_, fun x d h => ?_⟩
  · have hcanonical : d.canonical = d ↔ d.language ≠ some "" ∧ d.sourceLanguage ≠ some "" ∧
        ∀ c ∈ d.contexts, ∀ e ∈ c.entries,
          e.disambiguation ≠ some "" ∧ e.extraComment ≠ some "" ∧ e.translatorComment ≠ some "" := by
      simp only [Document.canonical_eq_self, Context.canonical_eq_self, Entry.canonical_eq_self]
    rw [Document.read_render, ← hcanonical]
    exact ⟨Except.ok.inj, fun h => by rw [h]⟩
  · rw [Document.read_render, Document.read_canonical h]

end Phrasebook
