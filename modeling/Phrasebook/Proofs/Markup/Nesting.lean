import Phrasebook.Proofs.Markup.Scan

/-! # End tags close the element opened last

The scanner keeps the names of the open elements and refuses an end tag that does not close the
last of them. So the events of any input that scans without a fault nest: read from the start,
every end tag names the innermost element still open (`scan_matched`).
-/

namespace Phrasebook.Markup

/-- The open elements, innermost first, after an event: a start tag opens its element and an end
tag closes the innermost one. -/
def Event.reopen : Event → List String → List String
  | .start t, opened => t.name :: opened
  | .close _, opened => opened.tail
  | _, opened => opened

/-- An event that the open elements admit: an end tag must name the innermost one. -/
def Event.Fits : Event → List String → Prop
  | .close n, opened => opened.head? = some n
  | _, _ => True

/-- Events from open elements `opened` on, each end tag closing the element opened last. -/
def Matched : List String → List Event → Prop
  | _, [] => True
  | opened, ev :: evs => ev.Fits opened ∧ Matched (ev.reopen opened) evs

theorem Trace.prepend_eq_event {evs : List Event} {ev : Event} {t : Trace}
    (h : Trace.prepend evs .done = .event ev t) : ∃ rest, evs = ev :: rest ∧ Trace.prepend rest .done = t := by
  cases evs with
  | nil => cases h
  | cons e rest =>
    simp only [Trace.prepend_cons, Trace.event.injEq] at h
    exact ⟨rest, by rw [h.1], h.2⟩

theorem Trace.prepend_ne_fail (evs : List Event) (e : MarkupError) : Trace.prepend evs .done ≠ .fail e := by
  cases evs <;> simp

/-- A comment, a CDATA section or a declaration opens and closes nothing. -/
theorem bangStep_event {s : List Char} {ev : Event} {r} (h : bangStep s = .ok (ev, r)) :
    ev = .aside ∨ ∃ c, ev = .cdata c := by
  unfold bangStep bangStep.doctype at h
  repeat' split at h
  all_goals (cases h <;> simp)

theorem processingStep_event {s : List Char} {ev : Event} {r} (h : processingStep s = .ok (ev, r)) :
    ev = .aside := by
  unfold processingStep at h
  repeat' split at h
  all_goals (cases h <;> rfl)

/-- One construct after a `<` moves the open elements as its event says. -/
theorem markupStep_reopen {opened opened' : List String} {s : List Char} {ev : Event} {r}
    (h : markupStep opened s = .ok (ev, opened', r)) : ev.Fits opened ∧ opened' = ev.reopen opened := by
  unfold markupStep at h
  split at h
  · cases h
  · -- `<!`: a comment, a CDATA section or a document type
    split at h
    · rename_i hbang
      cases h
      rcases bangStep_event hbang with rfl | ⟨c, rfl⟩ <;> exact ⟨trivial, rfl⟩
    · cases h
  · -- `<?`: a processing instruction or the declaration
    split at h
    · rename_i hproc
      cases h
      rw [processingStep_event hproc]
      exact ⟨trivial, rfl⟩
    · cases h
  · -- `</`: the end tag must name the innermost open element
    unfold closeStep at h
    split at h
    · cases h
    · split at h
      · cases h
      · dsimp only at h
        split at h
        · rename_i htop
          cases h
          rw [htop]
          exact ⟨rfl, rfl⟩
        · cases h
  · -- a start or empty-element tag
    unfold openStep at h
    split at h
    · cases h
    · split at h <;> (cases h; exact ⟨trivial, rfl⟩)

/-- The events of input that scans to its end without a fault nest. -/
theorem scanFrom_matched {opened : List String} {pending cs : List Char} {evs : List Event}
    (h : scanFrom opened pending cs = Trace.prepend evs .done) : Matched opened evs := by
  induction opened, pending, cs using scanFrom.induct generalizing evs with
  | case1 opened pending hp =>
    rw [scanFrom, if_pos hp] at h
    cases evs with
    | nil => trivial
    | cons => cases h
  | case2 opened pending hp =>
    -- the character data before the end of the input
    rw [scanFrom, if_neg hp] at h
    obtain ⟨rest, rfl, hrest⟩ := Trace.prepend_eq_event h.symm
    cases rest with
    | nil => exact ⟨trivial, trivial⟩
    | cons => cases hrest
  | case3 opened pending cs hp ih =>
    rw [scanFrom, if_pos rfl] at h
    simp only [hp, if_true] at h
    split at h
    · rename_i e _
      exact absurd h.symm (Trace.prepend_ne_fail evs e)
    · rename_i ev opened' r hr hstep
      obtain ⟨hfits, hreopen⟩ := markupStep_reopen hstep
      obtain ⟨rest, rfl, hrest⟩ := Trace.prepend_eq_event h.symm
      exact ⟨hfits, hreopen ▸ ih opened' r hr hrest.symm⟩
  | case4 opened pending cs hp ih =>
    -- markup after character data: the data comes first, as its own event
    rw [scanFrom, if_pos rfl] at h
    simp only [hp] at h
    obtain ⟨rest, rfl, hrest⟩ := Trace.prepend_eq_event h.symm
    refine ⟨trivial, ?_⟩
    split at hrest
    · rename_i e _
      exact absurd hrest (Trace.prepend_ne_fail rest e)
    · rename_i ev opened' r hr hstep
      obtain ⟨hfits, hreopen⟩ := markupStep_reopen hstep
      obtain ⟨rest', rfl, hrest'⟩ := Trace.prepend_eq_event hrest
      exact ⟨hfits, hreopen ▸ ih opened' r hr hrest'.symm⟩
  | case5 opened pending c cs hc ih =>
    rw [scanFrom, if_neg hc] at h
    exact ih h

theorem scan_matched {x : String} {evs : List Event} (h : scan x = Trace.prepend evs .done) :
    Matched [] evs := by
  unfold scan at h
  split at h
  · split at h
    · exact scanFrom_matched h
    · exact scanFrom_matched h
  · cases evs with
    | nil => trivial
    | cons => cases h

end Phrasebook.Markup
