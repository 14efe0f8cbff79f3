import Phrasebook.Document.Assembly
import Phrasebook.Document.Render
import Phrasebook.Proofs.Markup.Scan

/-! # Reading written markup, event by event

The reader of catalogs ignores character data while it holds no text buffer, so the line breaks
that the pen writes between elements never reach a document: each of them comes when the buffer
has just been taken by the end of a text element, or before one was started. The lemmas here
feed the events of written pieces to the reader: a line break, an element that holds one text,
and the attributes of a written tag, read back unescaped.
-/

namespace Phrasebook

open Markup

@[simp] theorem ok_bind {ε α β : Type} (x : α) (f : α → Except ε β) : (Except.ok x >>= f) = f x := rfl

@[simp] theorem error_bind {ε α β : Type} (e : ε) (f : α → Except ε β) : (Except.error e >>= f) = .error e := rfl

@[simp] theorem ok_map {ε α β : Type} (f : α → β) (x : α) : (f <$> (Except.ok x : Except ε α)) = .ok (f x) := rfl

namespace Assembly

/-- Feeds events one after another, stopping at the first error. -/
def feed : List Event → Assembly → Except ReadError Assembly
  | [], a => .ok a
  | e :: es, a => a.step e >>= feed es

@[simp] theorem feed_nil (a : Assembly) : feed [] a = .ok a := rfl

theorem feed_cons (e : Event) (es : List Event) (a : Assembly) :
    feed (e :: es) a = a.step e >>= feed es := rfl

theorem feed_append (es fs : List Event) (a : Assembly) :
    feed (es ++ fs) a = feed es a >>= feed fs := by
  induction es generalizing a with
  | nil => rfl
  | cons e es ih =>
    rw [List.cons_append, feed_cons, feed_cons]
    cases a.step e with
    | error err => rfl
    | ok a' => exact ih a'

theorem run_prepend (es : List Event) (t : Trace) (a : Assembly) :
    run (Trace.prepend es t) a = feed es a >>= run t := by
  induction es generalizing a with
  | nil => rfl
  | cons e es ih =>
    rw [Trace.prepend_cons, run, feed_cons]
    cases a.step e with
    | error err => rfl
    | ok a' => exact ih a'

/-! ## Character data -/

theorem addText_of_buffer_none {a : Assembly} (h : a.buffer = none) (s : String) : a.addText s = a := by
  cases a
  simp_all [addText]

/-- Character data without references changes nothing while no text is captured. -/
theorem step_plain_text {a : Assembly} (h : a.buffer = none) {raw : List Char} (hr : '&' ∉ raw) :
    a.step (.text raw) = .ok a := by
  simp [step, unescape_plain hr, addText_of_buffer_none h]

theorem not_amp_indentLine (depth : Nat) : '&' ∉ (indentLine depth).toList := by
  simp [indentLine, String.toList_append, List.mem_replicate]

theorem not_amp_lead (p : Pen) (x : Piece) : '&' ∉ (p.lead x).toList := by
  have hline : ∀ (b : Bool) (k : Nat), '&' ∉ (if b then indentLine k else "").toList := by
    intro b k
    cases b <;> simp [not_amp_indentLine]
  cases x with
  | text => simp [Pen.lead]
  | start => exact hline _ _
  | close => exact hline _ _
  | empty => exact hline _ _
  | declaration => exact hline _ _
  | doctype => exact hline _ _

/-- The line break before a piece changes nothing while no text is captured. -/
theorem feed_lead {a : Assembly} (h : a.buffer = none) (p : Pen) (x : Piece) :
    feed (if p.lead x = "" then [] else [.text (p.lead x).toList]) a = .ok a := by
  split
  · rfl
  · rw [feed_cons, step_plain_text h (not_amp_lead p x)]
    rfl

/-- The events of written pieces, one piece at a time, while no text is captured. -/
theorem feed_events_cons {a : Assembly} (h : a.buffer = none) (p : Pen) (x : Piece) (xs : List Piece) :
    feed (p.events (x :: xs)) a = feed x.events a >>= feed ((p.put x).events xs) := by
  rw [Pen.events, feed_append, feed_append, feed_lead h]
  rfl

theorem Pen.events_append (p : Pen) (xs ys : List Piece) :
    p.events (xs ++ ys) = p.events xs ++ (xs.foldl Pen.put p).events ys := by
  induction xs generalizing p with
  | nil => rfl
  | cons x xs ih => simp [Pen.events, ih]

theorem feed_events_append (p : Pen) (xs ys : List Piece) (a : Assembly) :
    feed (p.events (xs ++ ys)) a = feed (p.events xs) a >>= feed ((xs.foldl Pen.put p).events ys) := by
  rw [Pen.events_append, feed_append]

/-! ## Written attributes -/

theorem attrValue_rendered (n key : String) (attrs : List (String × String))
    (hk : ∀ kv ∈ attrs, PlainName kv.1) :
    attrValue ⟨n, (n ++ renderAttributes attrs).toList⟩ key =
      .ok ((attrs.find? fun kv => kv.1 == key).map Prod.snd) := by
  rw [attrValue, Tag.rawAttribute_rendered n key attrs hk]
  cases attrs.find? fun kv => kv.1 == key with
  | none => rfl
  | some kv => simp [unescape_escape]

/-! ## An element that holds one text -/

/-- An element that holds one text, whose start begins a capture: its end sees the whole text. -/
theorem feed_element (p : Pen) (n : String) (as : List (String × String)) (t : String) {a b : Assembly}
    (hbuf : a.buffer = none) (hstart : a.startElement ⟨n, (n ++ renderAttributes as).toList⟩ = .ok b)
    (hb : b.buffer = some "") :
    feed (p.events [.start n as, .text t, .close n]) a = .ok ({ b with buffer := some t }.endElement (localName n)) := by
  have hr : ((p.put (.start n as)).put (.text t)).breakLine = false := by simp [Piece.isText]
  rw [feed_events_cons hbuf, Piece.events, feed_cons]
  simp only [step, hstart, bind, Except.bind, feed_nil]
  rw [Pen.events, Pen.lead, Pen.events, Pen.lead_of_not_breakLine hr, Pen.events, Piece.events]
  by_cases ht : t = ""
  · subst ht
    have hb' : { b with buffer := some "" } = b := by
      cases b
      simp_all
    simp [feed_cons, step, Piece.events, hb']
  · simp [ht, feed_cons, step, unescape_escape, Piece.events, addText, hb]

theorem feed_close (p : Pen) (n : String) {a : Assembly} (hbuf : a.buffer = none) :
    feed (p.events [.close n]) a = .ok (a.endElement (localName n)) := by
  rw [feed_events_cons hbuf]
  rfl

end Assembly

end Phrasebook
