import Phrasebook.Proofs.Document.Reading
import Phrasebook.Proofs.Document.Canonical
import Phrasebook.Proofs.Markup.Nesting

/-! # The grammar of catalogs

The markup of a catalog nests as follows. Exactly one element has the local name `TS`, and it
is closed before the input ends; a `context` lies, at any depth, inside the `TS` element and
inside no other `context`; a `message` inside a `context` and inside no other `message`; every
`location`, `translation` and `numerusform` inside a `message`; and the `type` of every
`translation` is absent, empty, `unfinished`, `vanished` or `obsolete`.

`firstFault` walks the events of the markup with the stack of open elements and names the
first place where the grammar breaks. The reader keeps no stack: it has a document, a context
and an entry, each present or not, and a flag for a closed `TS`. `Assembly.Tracks` says that
these flags tell which elements are open; every event keeps it, so reading fails exactly with
the grammar's first fault (`Document.read_fault`), for every text whose markup scans without a
fault and whose references and attributes can be read.
-/

namespace Phrasebook

open Markup

/-- Where a reading of markup stands: the open elements, innermost first, and whether a `TS`
element has begun. -/
structure Place where
  opened : List String := []
  rooted : Bool := false

namespace Place

/-- Some open element has the local name `n`. -/
def inside (p : Place) (n : String) : Bool :=
  p.opened.any fun m => localName m == n

/-- The place inside an element that starts. -/
def enter (p : Place) (t : Tag) : Place :=
  { opened := t.name :: p.opened, rooted := p.rooted || t.localName == "TS" }

/-- The place after the innermost element ends. -/
def leave (p : Place) : Place :=
  { p with opened := p.opened.tail }

/-- The place after an event; an empty-element tag enters its element and leaves it. -/
def after (p : Place) : Event → Place
  | .start t => p.enter t
  | .empty t => (p.enter t).leave
  | .close _ => p.leave
  | _ => p

/-- A `type` attribute that names a status: absent, empty, `unfinished`, `vanished` or
`obsolete`. -/
def validType : Option String → Bool
  | none => true
  | some v => v == "" || v == "unfinished" || v == "vanished" || v == "obsolete"

/-- How an element that starts here breaks the grammar, if it does. -/
def startFault (p : Place) (t : Tag) : Option ReadError :=
  match t.localName with
  | "TS" => if p.rooted then some .multipleRoots else none
  | "context" =>
    if p.inside "TS" && !p.inside "context" then none else some (.misplaced "context" "TS")
  | "message" =>
    if p.inside "context" && !p.inside "message" then none else some (.misplaced "message" "context")
  | "location" => if p.inside "message" then none else some (.misplaced "location" "message")
  | "numerusform" => if p.inside "message" then none else some (.misplaced "numerusform" "message")
  | "translation" =>
    if p.inside "message" then
      match Assembly.attrValue t "type" with
      | .ok kind => if validType kind then none else some (.unknownStatus (kind.getD ""))
      | .error _ => none
    else some (.misplaced "translation" "message")
  | _ => none

/-- How an event breaks the grammar, if it does. -/
def eventFault (p : Place) : Event → Option ReadError
  | .start t => p.startFault t
  | .empty t => p.startFault t
  | _ => none

/-- How the grammar is broken when the input ends here: by an open `message`, an open `context`,
no `TS` element, or an open one. -/
def endFault (p : Place) : Option ReadError :=
  if p.inside "message" then some (.unexpectedEnd "message")
  else if p.inside "context" then some (.unexpectedEnd "context")
  else if !p.rooted then some .missingRoot
  else if p.inside "TS" then some (.unexpectedEnd "TS")
  else none

end Place

/-- The first place where events read from `p` break the grammar: an event, or else the end of
the input. -/
def firstFault (p : Place) : List Event → Option ReadError
  | [] => p.endFault
  | ev :: evs => (p.eventFault ev).or (firstFault (p.after ev) evs)

/-- The error of a computation that fails. -/
def faultOf {α : Type} : Except ReadError α → Option ReadError
  | .ok _ => none
  | .error e => some e

/-- An event whose text references resolve, and whose attributes can be read when it starts a
`TS`, `message`, `location` or `translation` element. -/
def Markup.Event.Readable : Event → Prop
  | .start t => t.localName ∈ ["TS", "message", "location", "translation"] →
      ∀ key, ∃ v, Assembly.attrValue t key = .ok v
  | .empty t => t.localName ∈ ["TS", "message", "location", "translation"] →
      ∀ key, ∃ v, Assembly.attrValue t key = .ok v
  | .text raw => ∃ s, unescape raw = .ok s
  | _ => True

theorem attrValue_bare (n key : String) : Assembly.attrValue ⟨n, n.toList⟩ key = .ok none := by
  simpa [renderAttributes] using Assembly.attrValue_rendered n key [] (fun _ h => by cases h)

theorem faultOf_eq_none_iff {α : Type} {r : Except ReadError α} : faultOf r = none ↔ ∃ v, r = .ok v := by
  cases r <;> simp [faultOf]

theorem faultOf_eq_some_iff {α : Type} {r : Except ReadError α} {e : ReadError} :
    faultOf r = some e ↔ r = .error e := by
  cases r <;> simp [faultOf]

/-! ## Places -/

namespace Place

theorem inside_enter (p : Place) (t : Tag) (k : String) :
    (p.enter t).inside k = (t.localName == k || p.inside k) := by
  simp [enter, inside, Tag.localName]

theorem after_opened (p : Place) (ev : Event) : (p.after ev).opened = ev.reopen p.opened := by
  cases ev <;> rfl

theorem inside_leave {p : Place} {n k : String} (hhead : p.opened.head? = some n) (hk : localName n ≠ k) :
    p.leave.inside k = p.inside k := by
  obtain ⟨rest, hrest⟩ := List.head?_eq_some_iff.1 hhead
  simp [leave, inside, hrest, hk]

theorem inside_leave_single {p : Place} {n k : String} (hhead : p.opened.head? = some n)
    (hk : localName n = k) (hs : p.opened.countP (fun m => localName m == k) ≤ 1) :
    p.leave.inside k = false := by
  obtain ⟨rest, hrest⟩ := List.head?_eq_some_iff.1 hhead
  rw [hrest, List.countP_cons, if_pos (by simp [hk])] at hs
  have hzero : rest.countP (fun m => localName m == k) = 0 := by omega
  simpa [leave, inside, hrest, List.countP_eq_zero] using hzero

/-- What every place reached without a fault satisfies: an open `TS` has begun, and at most one
`TS`, one `context` and one `message` are open. -/
structure Valid (p : Place) : Prop where
  rooted_of_inside : p.inside "TS" = true → p.rooted = true
  single : ∀ k ∈ ["TS", "context", "message"], p.opened.countP (fun m => localName m == k) ≤ 1

theorem valid_start : Valid {} := ⟨by simp [inside], by simp⟩

theorem Valid.enter {p : Place} (hv : p.Valid) {t : Tag} (hf : p.startFault t = none) : (p.enter t).Valid := by
  constructor
  · intro h
    rw [inside_enter] at h
    simp only [Place.enter, Bool.or_eq_true, beq_iff_eq] at h ⊢
    rcases h with h | h
    · exact .inr h
    · exact .inl (hv.rooted_of_inside h)
  · intro k hk
    -- a new `k` is entered only where no `k` is open
    have hnone : t.localName = k → p.opened.countP (fun m => localName m == k) = 0 := by
      intro htk
      have hout : p.inside k = false := by
        simp only [List.mem_cons, List.not_mem_nil, or_false] at hk
        rcases hk with rfl | rfl | rfl
        · have hroot : p.rooted = false := by simpa [startFault, htk] using hf
          cases h : p.inside "TS"
          · rfl
          · simp [hv.rooted_of_inside h] at hroot
        · cases h : p.inside "context" <;> simp_all [startFault]
        · cases h : p.inside "message" <;> simp_all [startFault]
      simpa [inside, List.countP_eq_zero] using hout
    have hle := hv.single k hk
    simp only [Place.enter, List.countP_cons]
    by_cases htk : t.localName = k
    · have := hnone htk
      simp [Tag.localName] at htk
      simp [htk, this]
    · have hne : (localName t.name == k) = false := by simpa [Tag.localName] using htk
      simp [hne, hle]

theorem Valid.leave {p : Place} (hv : p.Valid) : p.leave.Valid := by
  constructor
  · intro h
    apply hv.rooted_of_inside
    simp only [Place.leave, inside, List.any_eq_true] at h ⊢
    obtain ⟨m, hm, hmk⟩ := h
    exact ⟨m, List.mem_of_mem_tail hm, hmk⟩
  · intro k hk
    exact Nat.le_trans (List.Sublist.countP_le (List.tail_sublist _)) (hv.single k hk)

theorem Valid.after {p : Place} (hv : p.Valid) {ev : Event} (hf : p.eventFault ev = none) :
    (p.after ev).Valid := by
  cases ev with
  | start t => exact hv.enter hf
  | empty t => exact (hv.enter hf).leave
  | close n => exact hv.leave
  | text raw => exact hv
  | cdata c => exact hv
  | aside => exact hv

end Place

/-! ## The reader's flags -/

namespace Assembly

/-- The reader's flags say which elements of the grammar are open: it has a document once a
`TS` has begun, and that `TS` is open until it is closed; it has a context inside a `context` and
an entry inside a `message`. -/
structure Tracks (a : Assembly) (p : Place) : Prop where
  rooted : a.document.isSome = p.rooted
  closed_rooted : a.closed = true → a.document.isSome = true
  root : (a.document.isSome && !a.closed) = p.inside "TS"
  context : a.context.isSome = p.inside "context"
  message : a.pending.isSome = p.inside "message"

theorem tracks_start : Tracks {} {} := ⟨rfl, by simp, by simp [Place.inside], by simp [Place.inside],
  by simp [Place.inside]⟩

/-- Only the flags matter. -/
theorem Tracks.frame {a a' : Assembly} {p : Place} (h : Tracks a p)
    (hd : a'.document.isSome = a.document.isSome) (hc : a'.closed = a.closed)
    (hx : a'.context.isSome = a.context.isSome) (hm : a'.pending.isSome = a.pending.isSome) : Tracks a' p :=
  ⟨hd ▸ h.rooted, fun h' => hd ▸ h.closed_rooted (hc ▸ h'), hd ▸ hc ▸ h.root, hx ▸ h.context, hm ▸ h.message⟩

theorem Tracks.enter {a : Assembly} {p : Place} (h : Tracks a p) {t : Tag}
    (hts : t.localName ≠ "TS") (hctx : t.localName ≠ "context") (hmsg : t.localName ≠ "message") :
    Tracks a (p.enter t) :=
  ⟨by simp [Place.enter, h.rooted, hts], h.closed_rooted, by simp [Place.inside_enter, h.root, hts],
    by simp [Place.inside_enter, h.context, hctx], by simp [Place.inside_enter, h.message, hmsg]⟩

theorem startElement_plain {a a' : Assembly} {t : Tag} (hstep : a.startElement t = .ok a')
    (hts : t.localName ≠ "TS") (hctx : t.localName ≠ "context") (hmsg : t.localName ≠ "message") :
    a'.document = a.document ∧ a'.closed = a.closed ∧ a'.context = a.context ∧
      a'.pending.isSome = a.pending.isSome := by
  unfold startElement at hstep
  split at hstep
  · exact absurd ‹_› hts
  · exact absurd ‹_› hctx
  · cases hstep
    split <;> exact ⟨rfl, rfl, rfl, rfl⟩
  · exact absurd ‹_› hmsg
  · split at hstep
    · cases hstep
    · obtain ⟨file, -, hstep⟩ := bind_eq_ok hstep
      obtain ⟨line, -, hstep⟩ := map_eq_ok hstep
      subst hstep
      simp [withPending]
  all_goals first
    | (cases hstep; split <;> exact ⟨rfl, rfl, rfl, rfl⟩)
    | (cases hstep; exact ⟨rfl, rfl, rfl, rfl⟩)
    | (split at hstep
       · cases hstep
       · first
          | (cases hstep; split <;> exact ⟨rfl, rfl, rfl, rfl⟩)
          | (obtain ⟨kind, -, hstep⟩ := bind_eq_ok hstep
             split at hstep
             · cases hstep
             · cases hstep
               split <;> simp [withPending, resetBuffer]))

theorem ofAttribute_isSome (kind : Option String) : (Status.ofAttribute kind).isSome = Place.validType kind := by
  unfold Status.ofAttribute Place.validType
  split <;> simp_all

/-- The start of an element fails exactly where the grammar breaks. -/
theorem startElement_fault {a : Assembly} {p : Place} (h : Tracks a p) {t : Tag}
    (hread : t.localName ∈ ["TS", "message", "location", "translation"] →
      ∀ key, ∃ v, attrValue t key = .ok v) :
    faultOf (a.startElement t) = p.startFault t := by
  unfold startElement Place.startFault
  split
  · -- a second `TS`
    rename_i htag
    simp only [htag]
    rw [h.rooted]
    cases p.rooted
    · obtain ⟨version, hversion⟩ := hread (by simp [htag]) "version"
      obtain ⟨language, hlanguage⟩ := hread (by simp [htag]) "language"
      obtain ⟨source, hsource⟩ := hread (by simp [htag]) "sourcelanguage"
      simp [hversion, hlanguage, hsource, faultOf]
    · rfl
  · -- a `context` outside the open `TS`, or inside another `context`
    rename_i htag
    simp only [htag]
    have hcond : (a.document.isNone || a.context.isSome || a.closed) =
        !(p.inside "TS" && !p.inside "context") := by
      rw [← h.root, ← h.context]
      cases a.document <;> cases a.closed <;> simp
    rw [hcond]
    cases p.inside "TS" && !p.inside "context" <;> rfl
  · rename_i htag
    simp only [htag]
    rfl
  · -- a `message` outside a `context`, or inside another `message`
    rename_i htag
    simp only [htag]
    have hcond : (a.context.isNone || a.pending.isSome) = !(p.inside "context" && !p.inside "message") := by
      rw [← h.context, ← h.message]
      cases a.context <;> cases a.pending <;> simp
    rw [hcond]
    cases p.inside "context" && !p.inside "message"
    · rfl
    · obtain ⟨numerus, hnumerus⟩ := hread (by simp [htag]) "numerus"
      simp [hnumerus, faultOf]
  · -- a `location` outside a `message`
    rename_i htag
    simp only [htag]
    rw [← h.message]
    cases a.pending
    · rfl
    · obtain ⟨file, hfile⟩ := hread (by simp [htag]) "filename"
      obtain ⟨line, hline⟩ := hread (by simp [htag]) "line"
      simp [hfile, hline, faultOf]
  -- the starts of an entry's texts never fail
  · rename_i htag
    simp only [htag]
    rfl
  · rename_i htag
    simp only [htag]
    rfl
  · rename_i htag
    simp only [htag]
    rfl
  · rename_i htag
    simp only [htag]
    rfl
  · -- a `translation` outside a `message`, or with a type that names no status
    rename_i htag
    simp only [htag]
    rw [← h.message]
    cases a.pending
    · rfl
    · obtain ⟨kind, hkind⟩ := hread (by simp [htag]) "type"
      simp only [Option.isSome_some, if_true, hkind, ok_bind]
      rw [← ofAttribute_isSome]
      cases Status.ofAttribute kind <;> rfl
  · -- a `numerusform` outside a `message`
    rename_i htag
    simp only [htag]
    rw [← h.message]
    cases a.pending <;> rfl
  · -- any other element is transparent
    split <;> simp_all [faultOf]

theorem startElement_tracks {a a' : Assembly} {p : Place} (h : Tracks a p) {t : Tag}
    (hstep : a.startElement t = .ok a') : Tracks a' (p.enter t) := by
  by_cases hts : t.localName = "TS"
  · -- the document begins; no `TS` was closed before it
    unfold startElement at hstep
    simp only [hts] at hstep
    split at hstep
    · cases hstep
    · rename_i hnone
      obtain ⟨version, -, hstep⟩ := bind_eq_ok hstep
      obtain ⟨language, -, hstep⟩ := bind_eq_ok hstep
      obtain ⟨source, -, hstep⟩ := bind_eq_ok hstep
      cases hstep
      have hclosed : a.closed = false := by
        cases hc : a.closed
        · rfl
        · exact absurd (h.closed_rooted hc) hnone
      exact ⟨by simp [Place.enter, hts], by simp, by simp [Place.inside_enter, hts, hclosed],
        by simp [Place.inside_enter, hts, h.context], by simp [Place.inside_enter, hts, h.message]⟩
  by_cases hctx : t.localName = "context"
  · -- a context begins
    unfold startElement at hstep
    simp only [hctx] at hstep
    split at hstep
    · cases hstep
    · cases hstep
      exact ⟨by simp [Place.enter, hctx, h.rooted], h.closed_rooted, by simp [Place.inside_enter, hctx, h.root],
        by simp [Place.inside_enter, hctx], by simp [Place.inside_enter, hctx, h.message]⟩
  by_cases hmsg : t.localName = "message"
  · -- an entry begins
    unfold startElement at hstep
    simp only [hmsg] at hstep
    split at hstep
    · cases hstep
    · obtain ⟨numerus, -, hstep⟩ := bind_eq_ok hstep
      cases hstep
      exact ⟨by simp [Place.enter, hmsg, h.rooted], h.closed_rooted, by simp [Place.inside_enter, hmsg, h.root],
        by simp [Place.inside_enter, hmsg, h.context], by simp [Place.inside_enter, hmsg]⟩
  obtain ⟨hd, hc, hx, hm⟩ := startElement_plain hstep hts hctx hmsg
  exact (h.enter hts hctx hmsg).frame (by rw [hd]) hc (by rw [hx]) hm

theorem endElement_plain (a : Assembly) {n : String} (hts : n ≠ "TS") (hctx : n ≠ "context")
    (hmsg : n ≠ "message") :
    (a.endElement n).document = a.document ∧ (a.endElement n).closed = a.closed ∧
      (a.endElement n).context.isSome = a.context.isSome ∧
      (a.endElement n).pending.isSome = a.pending.isSome := by
  unfold endElement
  split
  · -- `name` renames the context it ends in
    split <;> simp_all
  all_goals first
    | exact absurd rfl hts
    | exact absurd rfl hctx
    | exact absurd rfl hmsg
    | (split <;> simp [withPending])
    | exact ⟨rfl, rfl, rfl, rfl⟩

theorem Tracks.leave {a : Assembly} {p : Place} (h : Tracks a p) {n : String} (hhead : p.opened.head? = some n)
    (hts : localName n ≠ "TS") (hctx : localName n ≠ "context") (hmsg : localName n ≠ "message") :
    Tracks a p.leave :=
  ⟨h.rooted, h.closed_rooted, by rw [Place.inside_leave hhead hts, h.root],
    by rw [Place.inside_leave hhead hctx, h.context], by rw [Place.inside_leave hhead hmsg, h.message]⟩

theorem endElement_root (a : Assembly) : a.endElement "TS" = { a with closed := true } := rfl

theorem endElement_context (a : Assembly) :
    (a.endElement "context").document.isSome = a.document.isSome ∧ (a.endElement "context").closed = a.closed ∧
      (a.endElement "context").context = none ∧ (a.endElement "context").pending = a.pending := by
  simp only [endElement]
  split <;> simp_all

theorem endElement_message (a : Assembly) :
    (a.endElement "message").document = a.document ∧ (a.endElement "message").closed = a.closed ∧
      (a.endElement "message").context.isSome = a.context.isSome ∧ (a.endElement "message").pending = none := by
  simp only [endElement]
  split <;> simp_all

theorem endElement_tracks {a : Assembly} {p : Place} (h : Tracks a p) (hv : p.Valid) {n : String}
    (hhead : p.opened.head? = some n) : Tracks (a.endElement (localName n)) p.leave := by
  have hin : p.inside (localName n) = true := by
    obtain ⟨rest, hrest⟩ := List.head?_eq_some_iff.1 hhead
    simp [Place.inside, hrest]
  by_cases hts : localName n = "TS"
  · -- the document closes: no `TS` is open any more
    have hroot := h.root
    rw [← hts, hin, Bool.and_eq_true] at hroot
    have hnone := Place.inside_leave_single hhead hts (hv.single "TS" (by simp))
    rw [hts, endElement_root]
    exact ⟨h.rooted, fun _ => hroot.1, by simp [hnone],
      by rw [Place.inside_leave hhead (by rw [hts]; decide)]; exact h.context,
      by rw [Place.inside_leave hhead (by rw [hts]; decide)]; exact h.message⟩
  by_cases hctx : localName n = "context"
  · -- the context closes
    have hnone := Place.inside_leave_single hhead hctx (hv.single "context" (by simp))
    obtain ⟨hd, hc, hx, hm⟩ := endElement_context a
    rw [hctx]
    exact ⟨hd ▸ h.rooted, fun hc' => hd ▸ h.closed_rooted (hc ▸ hc'),
      by rw [hd, hc, Place.inside_leave hhead hts]; exact h.root, by simp [hx, hnone],
      by rw [hm, Place.inside_leave hhead (by rw [hctx]; decide)]; exact h.message⟩
  by_cases hmsg : localName n = "message"
  · -- the entry closes
    have hnone := Place.inside_leave_single hhead hmsg (hv.single "message" (by simp))
    obtain ⟨hd, hc, hx, hm⟩ := endElement_message a
    rw [hmsg]
    exact ⟨hd ▸ h.rooted, fun hc' => hd ▸ h.closed_rooted (hc ▸ hc'),
      by rw [hd, hc, Place.inside_leave hhead hts]; exact h.root,
      by rw [hx, Place.inside_leave hhead hctx]; exact h.context, by simp [hm, hnone]⟩
  obtain ⟨hd, hc, hx, hm⟩ := endElement_plain a hts hctx hmsg
  exact (h.leave hhead hts hctx hmsg).frame (by rw [hd]) hc hx hm

/-- One event fails exactly where the grammar breaks. -/
theorem step_fault {a : Assembly} {p : Place} (h : Tracks a p) {ev : Event} (hread : ev.Readable) :
    faultOf (a.step ev) = p.eventFault ev := by
  cases ev with
  | start t => exact startElement_fault h hread
  | empty t =>
    -- an empty-element tag fails where its start does
    rw [Place.eventFault, ← startElement_fault h hread, step]
    cases a.startElement t <;> rfl
  | close n => rfl
  | text raw =>
    obtain ⟨s, hs⟩ := hread
    simp [step, hs, faultOf, Place.eventFault]
  | cdata c => rfl
  | aside => rfl

/-- After one event that succeeds, the flags tell which elements are open. -/
theorem step_tracks {a a' : Assembly} {p : Place} (h : Tracks a p) (hv : p.Valid) {ev : Event}
    (hread : ev.Readable) (hfits : ev.Fits p.opened) (hstep : a.step ev = .ok a') : Tracks a' (p.after ev) := by
  cases ev with
  | start t => exact startElement_tracks h hstep
  | empty t =>
    obtain ⟨b, hb, hstep⟩ := bind_eq_ok hstep
    cases hstep
    have hf : p.startFault t = none := by
      rw [← startElement_fault h hread, hb]
      rfl
    exact endElement_tracks (startElement_tracks h hb) (hv.enter hf) (n := t.name) rfl
  | close n =>
    cases hstep
    exact endElement_tracks h hv hfits
  | text raw =>
    obtain ⟨s, hs⟩ := hread
    simp only [step, hs] at hstep
    cases hstep
    exact h.frame rfl rfl rfl rfl
  | cdata c =>
    cases hstep
    exact h.frame rfl rfl rfl rfl
  | aside =>
    cases hstep
    exact h

theorem finish_fault {a : Assembly} {p : Place} (h : Tracks a p) : faultOf a.finish = p.endFault := by
  unfold finish Place.endFault
  rw [← h.message, ← h.context, ← h.rooted]
  cases a.pending
  · cases a.context
    · have hroot := h.root
      cases hd : a.document
      · rfl
      · rw [hd] at hroot
        cases hc : a.closed <;> simp_all [faultOf]
    · rfl
  · rfl

/-- Reading events fails exactly with the grammar's first fault. -/
theorem feed_fault {evs : List Event} {a : Assembly} {p : Place} (h : Tracks a p) (hv : p.Valid)
    (hm : Matched p.opened evs) (hread : ∀ ev ∈ evs, ev.Readable) :
    faultOf (feed evs a >>= finish) = firstFault p evs := by
  induction evs generalizing a p with
  | nil => exact finish_fault h
  | cons ev evs ih =>
    have hev := step_fault h (hread ev List.mem_cons_self)
    rw [feed_cons, firstFault]
    cases hstep : a.step ev with
    | error e =>
      rw [hstep] at hev
      rw [← hev]
      rfl
    | ok a' =>
      rw [hstep] at hev
      rw [← hev]
      have ht := step_tracks h hv (hread ev List.mem_cons_self) hm.1 hstep
      have hm' : Matched (p.after ev).opened evs := by
        rw [Place.after_opened]
        exact hm.2
      exact ih ht (hv.after hev.symm) hm' fun e he => hread e (List.mem_cons_of_mem ev he)

end Assembly

/-- Reading a text whose markup scans without a fault, and whose references and attributes can
be read, fails exactly with the grammar's first fault. -/
theorem Document.read_fault {x : String} {evs : List Event} (hscan : scan x = Trace.prepend evs .done)
    (hread : ∀ ev ∈ evs, ev.Readable) : faultOf (Document.read x) = firstFault {} evs := by
  have hrun : Assembly.run (scan x) {} = Assembly.feed evs {} := by
    rw [hscan, Assembly.run_prepend]
    cases Assembly.feed evs {} <;> rfl
  rw [Document.read, hrun]
  exact Assembly.feed_fault Assembly.tracks_start Place.valid_start (scan_matched hscan) hread

/-- Reading accepts exactly the grammar of catalogs: for markup that scans without a fault, with
references and attributes that can be read, reading succeeds exactly when the grammar holds, and
fails with the error of the first place where it breaks. -/
theorem Document.read_accepts_grammar {x : String} {evs : List Event}
    (hscan : scan x = Trace.prepend evs .done) (hread : ∀ ev ∈ evs, ev.Readable) :
    ((∃ d, Document.read x = .ok d) ↔ firstFault {} evs = none) ∧
    (∀ e, Document.read x = .error e ↔ firstFault {} evs = some e) := by
  have h := Document.read_fault hscan hread
  exact ⟨by rw [← h, faultOf_eq_none_iff], fun e => by rw [← h, faultOf_eq_some_iff]⟩

/-- A `message` directly inside `TS` breaks the grammar, and reading says so. -/
theorem Document.read_accepts_grammar_stray_message :
    scan "<TS><message/></TS>" =
      Trace.prepend [.start ⟨"TS", "TS".toList⟩, .empty ⟨"message", "message".toList⟩, .close "TS"] .done ∧
    (∀ ev ∈ [Event.start ⟨"TS", "TS".toList⟩, .empty ⟨"message", "message".toList⟩, .close "TS"],
      ev.Readable) ∧
    firstFault {} [.start ⟨"TS", "TS".toList⟩, .empty ⟨"message", "message".toList⟩, .close "TS"] =
      some (.misplaced "message" "context") ∧
    (((∃ d, Document.read "<TS><message/></TS>" = .ok d) ↔
        firstFault {} [.start ⟨"TS", "TS".toList⟩, .empty ⟨"message", "message".toList⟩, .close "TS"] = none) ∧
      ∀ e, Document.read "<TS><message/></TS>" = .error e ↔
        firstFault {} [.start ⟨"TS", "TS".toList⟩, .empty ⟨"message", "message".toList⟩, .close "TS"] =
          some e) := by
  have hscan : scan "<TS><message/></TS>" =
      Trace.prepend [.start ⟨"TS", "TS".toList⟩, .empty ⟨"message", "message".toList⟩, .close "TS"] .done := by
    decide +kernel
  have hread : ∀ ev ∈ [Event.start ⟨"TS", "TS".toList⟩, .empty ⟨"message", "message".toList⟩, .close "TS"],
      ev.Readable := by
    intro ev hev
    simp only [List.mem_cons, List.not_mem_nil, or_false] at hev
    rcases hev with rfl | rfl | rfl
    · exact fun _ key => ⟨none, attrValue_bare "TS" key⟩
    · exact fun _ key => ⟨none, attrValue_bare "message" key⟩
    · trivial
  exact ⟨hscan, hread, rfl, Document.read_accepts_grammar hscan hread⟩

end Phrasebook
