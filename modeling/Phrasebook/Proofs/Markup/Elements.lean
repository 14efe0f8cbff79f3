import Phrasebook.Proofs.Markup.Nesting

/-! # Elements of a document

The events of a document stand for its elements: each start tag or empty-element tag begins one
element, and a start tag's element holds the events up to the end tag that closes it. Since the
scanner makes every end tag close the element opened last, that end tag is the first one that
brings the count of open elements below where it was at the start tag (`splitElement`).

`elementsNamed n` lists the elements with local name `n` in the order of their start tags, at any
depth and each with the events inside it; `tagsNamed n` lists only their tags.
-/

namespace Phrasebook.Markup

/-- The tag that begins an element, if the event is a start or empty-element tag. -/
def Event.opens? : Event → Option Tag
  | .start t => some t
  | .empty t => some t
  | _ => none

/-- The tags of the elements with local name `n`, in order. -/
def tagsNamed (n : String) (es : List Event) : List Tag :=
  es.filterMap fun ev => ev.opens?.filter (·.localName = n)

/-- Cuts events at the end tag that closes an element, `depth` elements inside it being still
open: the events before that end tag, and the name in it with the events after it, when there is
one. -/
def splitElement : Nat → List Event → List Event × Option (String × List Event)
  | _, [] => ([], none)
  | d, .start t :: rest =>
    ((splitElement (d + 1) rest).1.cons (.start t), (splitElement (d + 1) rest).2)
  | 0, .close n :: rest => ([], some (n, rest))
  | d + 1, .close n :: rest => ((splitElement d rest).1.cons (.close n), (splitElement d rest).2)
  | d, ev :: rest => ((splitElement d rest).1.cons ev, (splitElement d rest).2)

/-- The elements with local name `n`, in the order of their start tags, each with the events
inside it. -/
def elementsNamed (n : String) : List Event → List (Tag × List Event)
  | [] => []
  | .start t :: rest =>
    if t.localName = n then (t, (splitElement 0 rest).1) :: elementsNamed n rest
    else elementsNamed n rest
  | .empty t :: rest =>
    if t.localName = n then (t, []) :: elementsNamed n rest else elementsNamed n rest
  | _ :: rest => elementsNamed n rest

/-! ## Tags -/

@[simp] theorem tagsNamed_nil (n : String) : tagsNamed n [] = [] := rfl

@[simp] theorem tagsNamed_append (n : String) (xs ys : List Event) :
    tagsNamed n (xs ++ ys) = tagsNamed n xs ++ tagsNamed n ys := by
  simp [tagsNamed, List.filterMap_append]

@[simp] theorem tagsNamed_start (n : String) (t : Tag) (es : List Event) :
    tagsNamed n (.start t :: es) = if t.localName = n then t :: tagsNamed n es else tagsNamed n es := by
  by_cases h : t.localName = n <;> simp [tagsNamed, Event.opens?, Option.filter, h]

@[simp] theorem tagsNamed_empty (n : String) (t : Tag) (es : List Event) :
    tagsNamed n (.empty t :: es) = if t.localName = n then t :: tagsNamed n es else tagsNamed n es := by
  by_cases h : t.localName = n <;> simp [tagsNamed, Event.opens?, Option.filter, h]

@[simp] theorem tagsNamed_close (n m : String) (es : List Event) :
    tagsNamed n (.close m :: es) = tagsNamed n es := rfl

@[simp] theorem tagsNamed_text (n : String) (raw : List Char) (es : List Event) :
    tagsNamed n (.text raw :: es) = tagsNamed n es := rfl

@[simp] theorem tagsNamed_cdata (n : String) (c : List Char) (es : List Event) :
    tagsNamed n (.cdata c :: es) = tagsNamed n es := rfl

@[simp] theorem tagsNamed_aside (n : String) (es : List Event) :
    tagsNamed n (.aside :: es) = tagsNamed n es := rfl

/-- Events that open no element with local name `n` add none to the elements after them. -/
theorem elementsNamed_append_of_tagsNamed {n : String} {xs : List Event} (h : tagsNamed n xs = [])
    (ys : List Event) : elementsNamed n (xs ++ ys) = elementsNamed n ys := by
  induction xs with
  | nil => rfl
  | cons ev rest ih =>
    cases ev with
    | start t =>
      by_cases ht : t.localName = n
      · simp [ht] at h
      · simp only [tagsNamed_start, ht, if_false] at h
        simp [elementsNamed, ht, ih h]
    | empty t =>
      by_cases ht : t.localName = n
      · simp [ht] at h
      · simp only [tagsNamed_empty, ht, if_false] at h
        simp [elementsNamed, ht, ih h]
    | close m => exact ih h
    | text raw => exact ih h
    | cdata c => exact ih h
    | aside => exact ih h

/-! ## Cutting at the closing end tag -/

@[simp] theorem splitElement_empty (d : Nat) (t : Tag) (rest : List Event) :
    splitElement d (.empty t :: rest) = ((splitElement d rest).1.cons (.empty t), (splitElement d rest).2) := by
  simp [splitElement]

@[simp] theorem splitElement_text (d : Nat) (raw : List Char) (rest : List Event) :
    splitElement d (.text raw :: rest) = ((splitElement d rest).1.cons (.text raw), (splitElement d rest).2) := by
  simp [splitElement]

@[simp] theorem splitElement_cdata (d : Nat) (c : List Char) (rest : List Event) :
    splitElement d (.cdata c :: rest) = ((splitElement d rest).1.cons (.cdata c), (splitElement d rest).2) := by
  simp [splitElement]

@[simp] theorem splitElement_aside (d : Nat) (rest : List Event) :
    splitElement d (.aside :: rest) = ((splitElement d rest).1.cons .aside, (splitElement d rest).2) := by
  simp [splitElement]

/-- The events before the closing end tag, that tag, and the events after it make up the whole. -/
theorem splitElement_decompose {d : Nat} {xs b after : List Event} {n : String}
    (h : splitElement d xs = (b, some (n, after))) : xs = b ++ .close n :: after := by
  induction xs generalizing d b with
  | nil => simp [splitElement] at h
  | cons ev rest ih =>
    cases ev with
    | start t =>
      simp only [splitElement, Prod.mk.injEq] at h
      obtain ⟨rfl, h2⟩ := h
      exact congrArg (_ :: ·) (ih (Prod.ext rfl h2))
    | close m =>
      cases d with
      | zero =>
        simp only [splitElement, Prod.mk.injEq, Option.some.injEq] at h
        obtain ⟨rfl, rfl, rfl⟩ := h
        rfl
      | succ k =>
        simp only [splitElement, Prod.mk.injEq] at h
        obtain ⟨rfl, h2⟩ := h
        exact congrArg (_ :: ·) (ih (Prod.ext rfl h2))
    | empty t | text raw | cdata c | aside =>
      simp only [splitElement, Prod.mk.injEq] at h
      obtain ⟨rfl, h2⟩ := h
      exact congrArg (_ :: ·) (ih (Prod.ext rfl h2))

/-- An element that is never closed holds all events after its start; so does every element
around it. -/
theorem splitElement_unclosed {j k : Nat} {xs : List Event} (h : (splitElement j xs).2 = none)
    (hjk : j ≤ k) : splitElement k xs = (xs, none) := by
  induction xs generalizing j k with
  | nil => rfl
  | cons ev rest ih =>
    cases ev with
    | start t =>
      simp only [splitElement] at h ⊢
      rw [ih h (Nat.succ_le_succ hjk)]
    | close m =>
      cases j with
      | zero => simp [splitElement] at h
      | succ j =>
        obtain ⟨k, rfl⟩ : ∃ k', k = k' + 1 := ⟨k - 1, by omega⟩
        simp only [splitElement] at h ⊢
        rw [ih h (by omega)]
    | empty t | text raw | cdata c | aside =>
      simp only [splitElement] at h ⊢
      rw [ih h hjk]

/-- Past a closed element, the cut for an element around it goes on after its end tag. -/
theorem splitElement_add {j : Nat} {xs b after : List Event} {n : String}
    (h : splitElement j xs = (b, some (n, after))) (k : Nat) :
    splitElement (j + k + 1) xs =
      (b ++ .close n :: (splitElement k after).1, (splitElement k after).2) := by
  induction xs generalizing j b with
  | nil => simp [splitElement] at h
  | cons ev rest ih =>
    cases ev with
    | start t =>
      simp only [splitElement, Prod.mk.injEq] at h ⊢
      obtain ⟨rfl, h2⟩ := h
      have := ih (Prod.ext rfl h2)
      rw [show j + k + 1 + 1 = j + 1 + k + 1 by omega, this]
      simp
    | close m =>
      cases j with
      | zero =>
        simp only [splitElement, Prod.mk.injEq, Option.some.injEq] at h
        obtain ⟨rfl, rfl, rfl⟩ := h
        simp [splitElement]
      | succ j =>
        simp only [splitElement, Prod.mk.injEq] at h
        obtain ⟨rfl, h2⟩ := h
        have := ih (Prod.ext rfl h2)
        rw [show j + 1 + k + 1 = (j + k + 1) + 1 by omega]
        simp [splitElement, this]
    | empty t | text raw | cdata c | aside =>
      simp only [splitElement, Prod.mk.injEq] at h ⊢
      obtain ⟨rfl, h2⟩ := h
      simp [ih (Prod.ext rfl h2)]

/-- The cut looks no further than the closing end tag. -/
theorem splitElement_body_append {j : Nat} {xs b after : List Event} {n : String}
    (h : splitElement j xs = (b, some (n, after))) (ys : List Event) :
    splitElement j (b ++ .close n :: ys) = (b, some (n, ys)) := by
  induction xs generalizing j b with
  | nil => simp [splitElement] at h
  | cons ev rest ih =>
    cases ev with
    | start t =>
      simp only [splitElement, Prod.mk.injEq] at h
      obtain ⟨rfl, h2⟩ := h
      simp [splitElement, ih (Prod.ext rfl h2)]
    | close m =>
      cases j with
      | zero =>
        simp only [splitElement, Prod.mk.injEq, Option.some.injEq] at h
        obtain ⟨rfl, rfl, rfl⟩ := h
        rfl
      | succ j =>
        simp only [splitElement, Prod.mk.injEq] at h
        obtain ⟨rfl, h2⟩ := h
        simp [splitElement, ih (Prod.ext rfl h2)]
    | empty t | text raw | cdata c | aside =>
      simp only [splitElement, Prod.mk.injEq] at h
      obtain ⟨rfl, h2⟩ := h
      simp [ih (Prod.ext rfl h2)]

/-- In events that nest, the end tag that closes an element opened below `depth` open elements
closes the element opened before them, and the events after it nest from there. -/
theorem matched_splitElement {Y R : List String} {xs after : List Event} {n : String}
    (hm : Matched (Y ++ R) xs) (h : (splitElement Y.length xs).2 = some (n, after)) :
    R.head? = some n ∧ Matched R.tail after := by
  induction xs generalizing Y with
  | nil => simp [splitElement] at h
  | cons ev rest ih =>
    cases ev with
    | start t =>
      simp only [splitElement] at h
      exact ih (Y := t.name :: Y) hm.2 h
    | close m =>
      cases Y with
      | nil =>
        simp only [List.length_nil, splitElement, Option.some.injEq, Prod.mk.injEq] at h
        obtain ⟨rfl, rfl⟩ := h
        exact hm
      | cons y Y =>
        simp only [List.length_cons, splitElement] at h
        exact ih hm.2 h
    | empty t | text raw | cdata c | aside =>
      simp only [splitElement] at h
      exact ih hm.2 h

end Phrasebook.Markup
