import Mathlib.Data.List.Induction
import Phrasebook.Proofs.Markup.Prefix
import Phrasebook.Proofs.Document.Grammar

/-! # Layout between the elements of a catalog

The reader has one text buffer. The start of a text element empties it when the element
captures text, text is added to it while it is there, and the end of any text element takes it
away. So outside every element that captures text there is no buffer (`buffer_isSome_openCapture`),
and character data read there is dropped once its references are resolved.

Main statement (`Document.read_ignores_layout`): whitespace put into the character data between
two constructs, where no reference and no capturing element is open, changes nothing about what
reading gives, beyond the position in an error about a reference that names nothing.
-/

namespace Phrasebook

open Markup

namespace Assembly

/-- Whether the start of `t` begins a text capture: a `name` in a context outside an entry; a
`source`, `comment`, `extracomment` or `translatorcomment` in an entry; a `translation` in an
entry without plural forms; a `numerusform` in an entry with plural forms. -/
def captures (a : Assembly) (t : Tag) : Bool :=
  match t.localName with
  | "name" => a.context.isSome && a.pending.isNone
  | "source" | "comment" | "extracomment" | "translatorcomment" => a.pending.isSome
  | "translation" => a.pending.any (!·.numerus)
  | "numerusform" => a.pending.any (·.numerus)
  | _ => false

/-- Whether the end of an element with local name `n` takes the text buffer away. -/
def takesText (n : String) : Bool :=
  n ∈ ["name", "source", "comment", "extracomment", "translatorcomment", "translation",
    "numerusform"]

/-- A start tag empties the buffer when it begins a capture, and keeps it otherwise. -/
theorem startElement_buffer {a a' : Assembly} {t : Tag} (h : a.startElement t = .ok a') :
    a'.buffer = if a.captures t then some "" else a.buffer := by
  unfold startElement at h
  unfold captures
  split at h
  · -- `TS`
    rename_i htag
    split at h
    · cases h
    · obtain ⟨_, -, h⟩ := bind_eq_ok h
      obtain ⟨_, -, h⟩ := bind_eq_ok h
      obtain ⟨_, -, h⟩ := bind_eq_ok h
      cases h
      simp [htag]
  · -- `context`
    rename_i htag
    split at h
    · cases h
    · cases h
      simp [htag]
  · -- `name`
    rename_i htag
    cases h
    simp only [htag]
    split <;> rfl
  · -- `message`
    rename_i htag
    split at h
    · cases h
    · obtain ⟨_, -, h⟩ := bind_eq_ok h
      cases h
      simp [htag]
  · -- `location`
    rename_i htag
    split at h
    · cases h
    · obtain ⟨_, -, h⟩ := bind_eq_ok h
      obtain ⟨_, -, h⟩ := map_eq_ok h
      subst h
      simp [htag, withPending]
  case h_6 | h_7 | h_8 | h_9 =>
    -- the texts of an entry other than its translation
    rename_i htag
    cases h
    simp only [htag]
    split <;> rfl
  · -- `translation`, which captures in an entry without plural forms
    rename_i htag
    split at h
    · cases h
    · rename_i p hp
      obtain ⟨_, -, h⟩ := bind_eq_ok h
      split at h
      · cases h
      · cases h
        simp only [htag, hp, Option.any_some]
        cases p.numerus <;> simp [withPending, resetBuffer]
  · -- `numerusform`, which captures in an entry with plural forms
    rename_i htag
    split at h
    · cases h
    · rename_i p hp
      cases h
      simp only [htag, hp, Option.any_some]
      split <;> rfl
  · -- any other element
    cases h
    -- the names that capture are excluded one by one
    split <;> first | contradiction | rfl

/-- The end of a text element takes the buffer away; the end of any other element keeps it. -/
theorem endElement_buffer (a : Assembly) (n : String) :
    (a.endElement n).buffer = if takesText n then none else a.buffer := by
  unfold endElement
  split
  -- the text elements take the buffer, whether or not there is an entry to store it in
  case h_1 | h_2 | h_3 | h_4 | h_5 | h_6 | h_7 => split <;> simp [takesText, withPending]
  -- `message`, `context` and `TS` keep it
  case h_8 | h_9 => split <;> simp [takesText]
  case h_10 => simp [takesText]
  case h_11 => simp_all [takesText]

theorem captures_takesText {a : Assembly} {t : Tag} (h : a.captures t = true) :
    takesText t.localName = true := by
  unfold captures at h
  split at h
  all_goals first | cases h | simp [takesText, *]

/-- What one event can do to the buffer: a buffer after it was there before, unless the event is
a start tag that begins a capture; an end tag that leaves a buffer does not end a text element. -/
theorem step_buffer_isSome {a a' : Assembly} {ev : Event} (h : a.step ev = .ok a')
    (hb : a'.buffer.isSome) :
    (∃ t, ev = .start t ∧ a.captures t = true) ∨
      (a.buffer.isSome ∧ ∀ n, ev = .close n → takesText (Markup.localName n) = false) := by
  cases ev with
  | start t =>
    rw [startElement_buffer h] at hb
    by_cases hcap : a.captures t = true
    · exact .inl ⟨t, rfl, hcap⟩
    · rw [if_neg hcap] at hb
      exact .inr ⟨hb, fun _ hn => by cases hn⟩
  | empty t =>
    -- an empty element that captures text gives it up at once
    obtain ⟨a₁, h₁, h⟩ := bind_eq_ok h
    cases h
    rw [endElement_buffer] at hb
    split at hb
    · simp at hb
    · rename_i htakes
      rw [startElement_buffer h₁] at hb
      have hcap : a.captures t = false := by
        cases hcap : a.captures t
        · rfl
        · exact absurd (captures_takesText hcap) htakes
      rw [hcap] at hb
      exact .inr ⟨hb, fun _ hn => by cases hn⟩
  | close n =>
    cases h
    rw [endElement_buffer] at hb
    split at hb
    · simp at hb
    · rename_i htakes
      refine .inr ⟨hb, fun m hm => ?_⟩
      cases hm
      simpa using htakes
  | text raw =>
    simp only [step] at h
    split at h
    · cases h
      exact .inr ⟨by simpa [addText] using hb, fun _ hn => by cases hn⟩
    · cases h
  | cdata c =>
    cases h
    exact .inr ⟨by simpa [addText] using hb, fun _ hn => by cases hn⟩
  | aside =>
    cases h
    exact .inr ⟨hb, fun _ hn => by cases hn⟩

/-! ## Where text is captured -/

/-- Some element open at the end of `evs` captures text: its start tag came when the reader, having
read the events before it, was in a state where that tag begins a capture. -/
def OpenCapture (evs : List Event) : Prop :=
  ∃ i t a, evs[i]? = some (.start t) ∧ feed (evs.take i) {} = .ok a ∧ a.captures t = true ∧
    (splitElement 0 (evs.drop (i + 1))).2 = none

/-- An element open at the end of `evs` is still open after one more event that does not close
it. -/
theorem OpenCapture.snoc {evs : List Event} {ev : Event} {i : Nat} {t : Tag} {a : Assembly}
    (hi : evs[i]? = some (.start t)) (hfeed : feed (evs.take i) {} = .ok a)
    (hcap : a.captures t = true) (hopen : (splitElement 0 (evs.drop (i + 1) ++ [ev])).2 = none) :
    OpenCapture (evs ++ [ev]) := by
  have hlt : i < evs.length := (List.getElem?_eq_some_iff.1 hi).1
  refine ⟨i, t, a, ?_, ?_, hcap, ?_⟩
  · rw [List.getElem?_append_left hlt]
    exact hi
  · rw [List.take_append_of_le_length (Nat.le_of_lt hlt)]
    exact hfeed
  · rw [List.drop_append_of_le_length hlt]
    exact hopen

/-- Wherever the reader holds a buffer, an element that captures text is open. -/
theorem buffer_isSome_openCapture {evs : List Event} (hm : Matched [] evs) {a : Assembly}
    (h : feed evs {} = .ok a) (hb : a.buffer.isSome) : OpenCapture evs := by
  -- induction from the end: the last event either begins the capture or keeps it open
  induction evs using List.reverseRecOn generalizing a with
  | nil =>
    cases h
    simp at hb
  | append_singleton evs ev ih =>
    rw [feed_append] at h
    obtain ⟨a₀, h₀, h⟩ := bind_eq_ok h
    obtain ⟨a₁, hstep, h⟩ := bind_eq_ok h
    cases h
    rcases step_buffer_isSome hstep hb with ⟨t, rfl, hcap⟩ | ⟨hb₀, hclose⟩
    · exact ⟨evs.length, t, a₀, by simp, by simpa using h₀, hcap, by simp [splitElement]⟩
    · obtain ⟨i, t, a₂, hi, hfeed, hcap, hopen⟩ := ih hm.of_append h₀ hb₀
      obtain ⟨k, hk⟩ := splitElement_append_of_unclosed hopen
      refine OpenCapture.snoc hi hfeed hcap ?_
      rw [hk]
      cases ev with
      | close n =>
        cases k with
        | zero =>
          -- an end tag right inside the capturing element closes it, so it ends a text element
          exfalso
          have hlt : i < evs.length := (List.getElem?_eq_some_iff.1 hi).1
          obtain ⟨S, hS⟩ := hm.drop_start (i := i) (t := t)
            (by rw [List.getElem?_append_left hlt]; exact hi)
          rw [List.drop_append_of_le_length hlt] at hS
          have hsplit : (splitElement ([] : List String).length (evs.drop (i + 1) ++ [.close n])).2 =
              some (n, []) := by
            rw [List.length_nil, hk]
            rfl
          obtain ⟨hn, -⟩ := matched_splitElement hS hsplit
          simp only [List.head?_cons, Option.some.injEq] at hn
          have htakes := captures_takesText hcap
          rw [Tag.localName, hn, hclose n rfl] at htakes
          cases htakes
        | succ k => rfl
      | start t' => rfl
      | empty t' => rfl
      | text raw => rfl
      | cdata c => rfl
      | aside => rfl

/-- Where no element that captures text is open, the reader holds no buffer. -/
theorem buffer_none_of_not_openCapture {evs : List Event} (hm : Matched [] evs)
    (hcap : ¬ OpenCapture evs) {a : Assembly} (h : feed evs {} = .ok a) : a.buffer = none := by
  cases hb : a.buffer with
  | none => rfl
  | some _ => exact absurd (buffer_isSome_openCapture hm h (by simp [hb])) hcap

/-- Character data does not close the elements open before it. -/
theorem OpenCapture.append_text {evs : List Event} (h : OpenCapture evs) (raw : List Char) :
    OpenCapture (evs ++ [.text raw]) := by
  obtain ⟨i, t, a, hi, hfeed, hcap, hopen⟩ := h
  obtain ⟨k, hk⟩ := splitElement_append_of_unclosed hopen
  exact OpenCapture.snoc hi hfeed hcap (by rw [hk]; rfl)

/-- Character data read without a buffer leaves the reader as it was, once its references are
resolved. -/
theorem run_flush_of_buffer_none {a : Assembly} (h : a.buffer = none) (q : List Char) (t : Trace) :
    run (Trace.flush q t) a =
      match unescape q.reverse with
      | .ok _ => run t a
      | .error e => .error (.markup (.escape e)) := by
  unfold Trace.flush
  split
  · rename_i hq
    rw [List.isEmpty_iff.1 hq]
    rfl
  · cases hu : unescape q.reverse <;> simp [run, step, hu, addText_of_buffer_none h]

end Assembly

namespace Document

/-- Two outcomes of reading that agree: they are the same, or both are an error about a reference
in character data, which names where in the text it stands. -/
def ReadsAlike (r r' : Except ReadError Document) : Prop :=
  r = r' ∨ (∃ e, r = .error (.markup (.escape e))) ∧ ∃ e', r' = .error (.markup (.escape e'))

/-- The events before a point in character data are read, then the data there, `q` gathered
(reversed) before the point, with characters other than `&` put at the point: where the reader
holds no buffer and no reference is open, the outcome agrees with reading it without them. -/
theorem readsAlike_gathered (evs₀ : List Event) (opened : List String) (q u : List Char)
    (hbuf : ∀ a, Assembly.feed evs₀ {} = .ok a → a.buffer = none) (ht : ReferencesClosed q.reverse)
    (hu : '&' ∉ u) (s : List Char) :
    ReadsAlike
      (Assembly.run (Trace.prepend evs₀ (scanFrom opened (u.reverse ++ q) s)) {} >>= Assembly.finish)
      (Assembly.run (Trace.prepend evs₀ (scanFrom opened q s)) {} >>= Assembly.finish) := by
  -- the character data runs on to the next `<`, where it becomes one event
  obtain ⟨t₂, post, rfl, ht₂, hpost⟩ := exists_gathered s
  rw [scanFrom_chars _ _ _ ht₂, scanFrom_chars _ _ _ ht₂,
    scanFrom_gathered hpost opened (t₂.reverse ++ (u.reverse ++ q)),
    scanFrom_gathered hpost opened (t₂.reverse ++ q), Assembly.run_prepend, Assembly.run_prepend]
  cases hfeed : Assembly.feed evs₀ {} with
  | error e => exact .inl rfl
  | ok a =>
    simp only [ok_bind]
    rw [Assembly.run_flush_of_buffer_none (hbuf a hfeed),
      Assembly.run_flush_of_buffer_none (hbuf a hfeed)]
    simp only [List.reverse_append, List.reverse_reverse, List.append_assoc]
    -- both unescape, or neither does
    have hok := unescape_insert_isOk ht hu t₂
    rw [List.append_assoc] at hok
    cases h₁ : unescape (q.reverse ++ (u ++ t₂)) <;> cases h₂ : unescape (q.reverse ++ t₂) <;>
      simp only [h₁, h₂, Except.isOk, Except.toBool, reduceCtorEq] at hok
    · exact .inr ⟨⟨_, rfl⟩, _, rfl⟩
    · exact .inl rfl

/-- Blanks put at the very start of an input, where nothing has been read yet. -/
theorem readsAlike_blanks_at_start {w : String} (hw : ∀ c ∈ w.toList, isBlank c = true)
    (hw₀ : w ≠ "") (s : String) : ReadsAlike (read (w ++ s)) (read s) := by
  have hamp : '&' ∉ w.toList := fun h => (ne_of_isBlank (hw _ h)).2.1 rfl
  obtain ⟨extra, s', hextra, hs, hws⟩ := scan_blanks_append hw hw₀ s
  show ReadsAlike (Assembly.run (scan (w ++ s)) {} >>= Assembly.finish)
    (Assembly.run (scan s) {} >>= Assembly.finish)
  rw [hws, hs]
  exact readsAlike_gathered [] [] [] (w.toList ++ extra) (fun a h => by cases h; rfl)
    (fun a b h => by simp at h) (by simp [hamp, hextra]) s'

/-- Whitespace put into the character data between two constructs, where no reference is open
and no element that captures text is open, changes nothing about reading: the document or the
error is the same, but for the position in an error about a reference that names nothing.

`pre` is what comes before the point: it scans to its end without a fault, into the events
`evs`, so the point is outside every construct; the character data that ends `pre`, if any,
closes its references; and no element open at the point captures text. -/
theorem read_ignores_layout (pre w s : String) {evs : List Event}
    (hpre : scan pre = Trace.prepend evs .done)
    (hrefs : ∀ raw, evs.getLast? = some (.text raw) → ReferencesClosed raw)
    (hcap : ¬ Assembly.OpenCapture evs) (hw : ∀ c ∈ w.toList, isBlank c = true) :
    ReadsAlike (read (pre ++ w ++ s)) (read (pre ++ s)) := by
  have hamp : '&' ∉ w.toList := fun h => (ne_of_isBlank (hw _ h)).2.1 rfl
  have hlt : '<' ∉ w.toList := fun h => (ne_of_isBlank (hw _ h)).1 rfl
  by_cases hw₀ : w = ""
  · subst hw₀
    exact .inl (by rw [String.append_empty])
  by_cases hpre₀ : pre = ""
  · -- at the start of the input nothing has been read
    subst hpre₀
    have hempty : scan "" = Trace.prepend [] .done := rfl
    have hevs : evs = [] := Trace.prepend_done_injective (hpre.symm.trans hempty)
    subst hevs
    rw [String.empty_append, String.empty_append]
    exact readsAlike_blanks_at_start hw hw₀ s
  -- past a nonempty `pre` the scan goes on from where `pre` stopped
  obtain ⟨evs₀, opened, q, heq, hs⟩ := scan_append hpre hpre₀
  have hevs : evs = evs₀ ++ (if q.isEmpty then [] else [.text q.reverse]) := by
    rw [Trace.flush_eq_prepend, ← Trace.prepend_append] at heq
    exact Trace.prepend_done_injective heq
  -- no capturing element is open before the character data that ends `pre` either
  have hcap₀ : ¬ Assembly.OpenCapture evs₀ := fun h => hcap (by
    rw [hevs]
    split
    · rwa [List.append_nil]
    · exact h.append_text _)
  have hm₀ : Matched [] evs₀ := by
    have hm := scan_matched hpre
    rw [hevs] at hm
    exact hm.of_append
  have hbuf : ∀ a, Assembly.feed evs₀ {} = .ok a → a.buffer = none := fun _ ha =>
    Assembly.buffer_none_of_not_openCapture hm₀ hcap₀ ha
  have hclosed : ReferencesClosed q.reverse := by
    by_cases hq : q.isEmpty = true
    · rw [List.isEmpty_iff.1 hq]
      intro a b h
      simp at h
    · apply hrefs
      rw [hevs, if_neg hq]
      simp
  show ReadsAlike (Assembly.run (scan (pre ++ w ++ s)) {} >>= Assembly.finish)
    (Assembly.run (scan (pre ++ s)) {} >>= Assembly.finish)
  rw [String.append_assoc, hs, hs, String.toList_append, scanFrom_chars _ _ _ hlt]
  exact readsAlike_gathered evs₀ opened q w.toList hbuf hclosed hamp s.toList

/-- The line break and indentation after a context's name, between the name and the entry that
follows, can be taken out. -/
theorem read_ignores_layout_indented :
    scan "<TS><context><name>A</name>" =
        Trace.prepend [.start ⟨"TS", "TS".toList⟩, .start ⟨"context", "context".toList⟩,
          .start ⟨"name", "name".toList⟩, .text ['A'], .close "name"] .done ∧
      ¬ Assembly.OpenCapture [.start ⟨"TS", "TS".toList⟩, .start ⟨"context", "context".toList⟩,
          .start ⟨"name", "name".toList⟩, .text ['A'], .close "name"] ∧
      ReadsAlike
        (read ("<TS><context><name>A</name>" ++ "\n  " ++ "<message><source>x</source></message></context></TS>"))
        (read ("<TS><context><name>A</name>" ++ "<message><source>x</source></message></context></TS>")) := by
  have hscan : scan "<TS><context><name>A</name>" =
      Trace.prepend [.start ⟨"TS", "TS".toList⟩, .start ⟨"context", "context".toList⟩,
        .start ⟨"name", "name".toList⟩, .text ['A'], .close "name"] .done := by
    decide +kernel
  have hcap : ¬ Assembly.OpenCapture [.start ⟨"TS", "TS".toList⟩,
      .start ⟨"context", "context".toList⟩, .start ⟨"name", "name".toList⟩, .text ['A'],
      .close "name"] := by
    rintro ⟨i, t, a, hi, -, hcap, hopen⟩
    have htakes := Assembly.captures_takesText hcap
    match i, hi with
    | 0, hi =>
      cases hi
      exact absurd htakes (by decide +kernel)
    | 1, hi =>
      cases hi
      exact absurd htakes (by decide +kernel)
    | 2, hi =>
      -- the name is closed before the point
      cases hi
      exact absurd hopen (by decide +kernel)
    | 3, hi => cases hi
    | 4, hi => cases hi
    | _ + 5, hi => simp at hi
  refine ⟨hscan, hcap, ?_⟩
  exact read_ignores_layout "<TS><context><name>A</name>" "\n  "
    "<message><source>x</source></message></context></TS>" hscan (by simp) hcap (by simp [isBlank])

end Document

end Phrasebook
