import Phrasebook.Proofs.Markup.Elements
import Phrasebook.Proofs.Markup.Escape

/-! # Reading markup from left to right

The scanner reads each construct up to its closing `>` and no further (`markupStep_append`), so
input that scans to its end without a fault stops outside every construct, and whatever follows
it is scanned from where it stopped: with the same elements open and its trailing character
data still gathered (`scanFrom_append`).

References in character data are read the same way: up to their `;`. Whether a text unescapes
depends neither on where it stands nor on what came out before it (`unescapeFrom_isOk_eq`), so
character data without references, put where no reference is open, leaves the outcome as it was
(`unescape_insert_isOk`).
-/

namespace Phrasebook.Markup

/-! ## Constructs end at their `>` -/

theorem cutAt_append_of_some {σ : Type} {update : σ → Char → σ} {ends : σ → List Char → Bool}
    {st : σ} {acc cs buf r : List Char} (h : cutAt update ends st acc cs = some (buf, r))
    (s : List Char) : cutAt update ends st acc (cs ++ s) = some (buf, r ++ s) := by
  induction cs generalizing st acc with
  | nil => simp [cutAt] at h
  | cons c cs ih =>
    rw [List.cons_append, cutAt]
    rw [cutAt] at h
    split at h
    · rename_i hc
      simp only [Option.some.injEq, Prod.mk.injEq] at h
      obtain ⟨rfl, rfl⟩ := h
      rw [if_pos hc]
    · rename_i hc
      rw [if_neg hc]
      exact ih h

theorem openStep_append {opened opened' : List String} {cs r : List Char} {ev : Event} {hr}
    (h : openStep opened cs = .ok (ev, opened', ⟨r, hr⟩)) (s : List Char) :
    ∃ hr', openStep opened (cs ++ s) = .ok (ev, opened', ⟨r ++ s, hr'⟩) := by
  unfold openStep at h ⊢
  split at h
  · cases h
  · rename_i buf rest hcut
    have hcut' : cutTag (cs ++ s) = some (buf, rest ++ s) := cutAt_append_of_some hcut s
    split
    · rename_i hnone
      rw [hcut'] at hnone
      cases hnone
    · rename_i buf' rest' hsome
      rw [hcut'] at hsome
      cases hsome
      by_cases hslash : (buf.getLast? == some '/') = true
      · rw [if_pos hslash] at h ⊢
        cases h
        exact ⟨cutAt_length hcut', rfl⟩
      · rw [if_neg hslash] at h ⊢
        cases h
        exact ⟨cutAt_length hcut', rfl⟩

theorem closeStep_append {opened opened' : List String} {cs r : List Char} {ev : Event} {hr}
    (h : closeStep opened cs = .ok (ev, opened', ⟨r, hr⟩)) (s : List Char) :
    ∃ hr', closeStep opened (cs ++ s) = .ok (ev, opened', ⟨r ++ s, hr'⟩) := by
  unfold closeStep at h ⊢
  split at h
  · cases h
  · rename_i buf rest hcut
    have hcut' : cutTag (cs ++ s) = some (buf, rest ++ s) := cutAt_append_of_some hcut s
    split
    · rename_i hnone
      rw [hcut'] at hnone
      cases hnone
    · rename_i buf' rest' hsome
      rw [hcut'] at hsome
      cases hsome
      dsimp only at h ⊢
      split at h
      · cases h
      · rename_i top outer
        by_cases htop : top = closeName (buf.drop 1)
        · rw [if_pos htop] at h ⊢
          cases h
          exact ⟨cutAt_length hcut', rfl⟩
        · rw [if_neg htop] at h
          cases h

theorem processingStep_append {cs r : List Char} {ev : Event} {hr}
    (h : processingStep cs = .ok (ev, ⟨r, hr⟩)) (s : List Char) :
    ∃ hr', processingStep (cs ++ s) = .ok (ev, ⟨r ++ s, hr'⟩) := by
  unfold processingStep at h ⊢
  split at h
  · cases h
  · rename_i buf rest hcut
    have hcut' : cutProcessing (cs ++ s) = some (buf, rest ++ s) := cutAt_append_of_some hcut s
    split
    · rename_i hnone
      rw [hcut'] at hnone
      cases hnone
    · rename_i buf' rest' hsome
      rw [hcut'] at hsome
      cases hsome
      by_cases hlen : buf.length > 1
      · rw [if_pos hlen] at h ⊢
        cases h
        exact ⟨cutAt_length hcut', rfl⟩
      · rw [if_neg hlen] at h
        cases h

theorem doctype_append {cs r : List Char} {ev : Event} {hr}
    (h : bangStep.doctype cs = .ok (ev, ⟨r, hr⟩)) (s : List Char) :
    ∃ hr', bangStep.doctype (cs ++ s) = .ok (ev, ⟨r ++ s, hr'⟩) := by
  unfold bangStep.doctype at h ⊢
  split at h
  · cases h
  · rename_i buf rest hcut
    have hcut' : cutDoctype (cs ++ s) = some (buf, rest ++ s) := cutAt_append_of_some hcut s
    split
    · rename_i hnone
      rw [hcut'] at hnone
      cases hnone
    · rename_i buf' rest' hsome
      rw [hcut'] at hsome
      cases hsome
      by_cases hname : startsUncased buf "!DOCTYPE" = true
      · by_cases hblank : (buf.drop 8).all isBlank = true
        · rw [if_pos hname, if_pos hblank] at h
          cases h
        · rw [if_pos hname, if_neg hblank] at h ⊢
          cases h
          exact ⟨cutAt_length hcut', rfl⟩
      · rw [if_neg hname] at h
        cases h

theorem bangStep_append {cs r : List Char} {ev : Event} {hr}
    (h : bangStep cs = .ok (ev, ⟨r, hr⟩)) (s : List Char) :
    ∃ hr', bangStep (cs ++ s) = .ok (ev, ⟨r ++ s, hr'⟩) := by
  -- the kind of construct is read off its second character, which `cs` already holds
  have hd : (cs ++ s).drop 1 = cs.drop 1 ++ s := List.drop_append_of_le_length (by omega)
  unfold bangStep at h ⊢
  rw [hd]
  split at h
  · -- a CDATA section
    rename_i tail hdrop
    simp only [hdrop, List.cons_append]
    split at h
    · cases h
    · rename_i buf rest hcut
      have hcut' : cutCData (cs ++ s) = some (buf, rest ++ s) := cutAt_append_of_some hcut s
      split
      · rename_i hnone
        rw [hcut'] at hnone
        cases hnone
      · rename_i buf' rest' hsome
        rw [hcut'] at hsome
        cases hsome
        by_cases hopen : (buf.take 8 == "![CDATA[".toList) = true
        · rw [if_pos hopen] at h ⊢
          cases h
          exact ⟨cutAt_length hcut', rfl⟩
        · rw [if_neg hopen] at h
          cases h
  · -- a comment
    rename_i tail hdrop
    simp only [hdrop, List.cons_append]
    split at h
    · cases h
    · rename_i buf rest hcut
      have hcut' : cutComment (cs ++ s) = some (buf, rest ++ s) := cutAt_append_of_some hcut s
      split
      · rename_i hnone
        rw [hcut'] at hnone
        cases hnone
      · rename_i buf' rest' hsome
        rw [hcut'] at hsome
        cases hsome
        by_cases hopen : (buf.take 3 == ['!', '-', '-']) = true
        · rw [if_pos hopen] at h ⊢
          cases h
          exact ⟨cutAt_length hcut', rfl⟩
        · rw [if_neg hopen] at h
          cases h
  · rename_i tail hdrop
    simp only [hdrop, List.cons_append]
    exact doctype_append h s
  · rename_i tail hdrop
    simp only [hdrop, List.cons_append]
    exact doctype_append h s
  · cases h

/-- The construct after a `<` is read up to its end and no further. -/
theorem markupStep_append {opened opened' : List String} {cs r : List Char} {ev : Event} {hr}
    (h : markupStep opened cs = .ok (ev, opened', ⟨r, hr⟩)) (s : List Char) :
    ∃ hr', markupStep opened (cs ++ s) = .ok (ev, opened', ⟨r ++ s, hr'⟩) := by
  unfold markupStep at h ⊢
  split at h
  · cases h
  · -- `<!`
    split at h
    · rename_i ev₀ r₀ hb
      cases h
      obtain ⟨hr', hb'⟩ := bangStep_append hb s
      simp only [List.cons_append] at hb' ⊢
      simp only [hb']
      exact ⟨hr', trivial⟩
    · cases h
  · -- `<?`
    split at h
    · rename_i ev₀ r₀ hp
      cases h
      obtain ⟨hr', hp'⟩ := processingStep_append hp s
      simp only [List.cons_append] at hp' ⊢
      simp only [hp']
      exact ⟨hr', trivial⟩
    · cases h
  · -- `</`
    obtain ⟨hr', hc'⟩ := closeStep_append h s
    simp only [List.cons_append] at hc' ⊢
    exact ⟨hr', hc'⟩
  · -- a start or empty-element tag
    rename_i c more hbang hproc hclose
    obtain ⟨hr', ho'⟩ := openStep_append h s
    simp only [List.cons_append] at ho' ⊢
    exact ⟨hr', ho'⟩

/-! ## Scanning goes on where a prefix stopped -/

theorem Trace.flush_eq_prepend (q : List Char) (t : Trace) :
    Trace.flush q t = Trace.prepend (if q.isEmpty then [] else [.text q.reverse]) t := by
  unfold Trace.flush
  split <;> rfl

/-- Events in front of a trace that ends without a fault are the first of its events. -/
theorem Trace.prepend_eq_prepend_done {xs evs : List Event} {t : Trace}
    (h : Trace.prepend xs t = Trace.prepend evs .done) :
    ∃ rest, evs = xs ++ rest ∧ t = Trace.prepend rest .done := by
  induction xs generalizing evs with
  | nil => exact ⟨evs, rfl, h⟩
  | cons x xs ih =>
    cases evs with
    | nil => cases h
    | cons e es =>
      simp only [Trace.prepend_cons, Trace.event.injEq] at h
      obtain ⟨rfl, h⟩ := h
      obtain ⟨rest, rfl, ht⟩ := ih h
      exact ⟨rest, rfl, ht⟩

/-- Markup that cannot be read ends the trace, after the character data gathered before it. -/
theorem scanFrom_fault {st : List String} {cs : List Char} {e : MarkupError}
    (h : markupStep st cs = .error e) (pending : List Char) :
    scanFrom st pending ('<' :: cs) = Trace.flush pending (.fail e) := by
  rw [scanFrom, if_pos rfl]
  simp [h, Trace.flush]

/-- Input that scans to its end without a fault stops outside every construct: input after it is
scanned from where it stopped, with the same elements open and the trailing character data
still gathered. -/
theorem scanFrom_append {opened : List String} {pending cs : List Char} {evs : List Event}
    (h : scanFrom opened pending cs = Trace.prepend evs .done) :
    ∃ evs₀ opened' q, Trace.prepend evs .done = Trace.prepend evs₀ (Trace.flush q .done) ∧
      ∀ s, scanFrom opened pending (cs ++ s) = Trace.prepend evs₀ (scanFrom opened' q s) := by
  induction opened, pending, cs using scanFrom.induct generalizing evs with
  | case1 opened pending hp | case2 opened pending hp =>
    -- the input ends here, with `pending` gathered
    refine ⟨[], opened, pending, ?_, fun s => rfl⟩
    rw [← h, scanFrom]
    rfl
  | case3 opened pending cs hp ih | case4 opened pending cs hp ih =>
    cases hstep : markupStep opened cs with
    | error e =>
      -- a fault would end the trace
      rw [scanFrom_fault hstep, Trace.flush_eq_prepend] at h
      obtain ⟨rest, -, hrest⟩ := Trace.prepend_eq_prepend_done h
      exact absurd hrest.symm (Trace.prepend_ne_fail rest e)
    | ok res =>
      obtain ⟨ev, opened'', r, hr⟩ := res
      rw [scanFrom_markup hstep, Trace.flush_eq_prepend] at h
      obtain ⟨evs', rfl, hevs'⟩ := Trace.prepend_eq_prepend_done h
      obtain ⟨evs'', rfl, hnext⟩ := Trace.prepend_eq_event hevs'.symm
      obtain ⟨evs₀, o, q, heq, hs⟩ := ih opened'' r hr hnext.symm
      refine ⟨(if pending.isEmpty then [] else [.text pending.reverse]) ++ ev :: evs₀, o, q, ?_,
        fun s => ?_⟩
      · rw [Trace.prepend_append, Trace.prepend_append, Trace.prepend_cons, Trace.prepend_cons, heq]
      · obtain ⟨hr', hstep'⟩ := markupStep_append hstep s
        rw [List.cons_append, scanFrom_markup hstep', Trace.flush_eq_prepend, hs,
          Trace.prepend_append, Trace.prepend_cons]
  | case5 opened pending c cs hc ih =>
    rw [scanFrom, if_neg hc] at h
    obtain ⟨evs₀, o, q, heq, hs⟩ := ih h
    refine ⟨evs₀, o, q, heq, fun s => ?_⟩
    rw [List.cons_append, scanFrom, if_neg hc, hs]

/-- The same for a whole input: what follows input that scans to its end is scanned from where
that input stopped. -/
theorem scan_append {pre : String} {evs : List Event} (h : scan pre = Trace.prepend evs .done)
    (hne : pre ≠ "") :
    ∃ evs₀ opened q, Trace.prepend evs .done = Trace.prepend evs₀ (Trace.flush q .done) ∧
      ∀ s : String, scan (pre ++ s) = Trace.prepend evs₀ (scanFrom opened q s.toList) := by
  obtain ⟨c, cs, hpre⟩ : ∃ c cs, pre.toList = c :: cs := by
    cases hl : pre.toList with
    | nil => exact absurd (String.toList_eq_nil_iff.1 hl) hne
    | cons c cs => exact ⟨c, cs, rfl⟩
  unfold scan at h ⊢
  rw [hpre] at h
  -- a byte order mark is dropped the same way with or without what follows
  by_cases hbom : c = Char.ofNat 0xFEFF
  · simp only [if_pos hbom] at h
    obtain ⟨evs₀, o, q, heq, hs⟩ := scanFrom_append h
    refine ⟨evs₀, o, q, heq, fun s => ?_⟩
    simp only [String.toList_append, hpre, List.cons_append, if_pos hbom]
    exact hs s.toList
  · simp only [if_neg hbom] at h
    obtain ⟨evs₀, o, q, heq, hs⟩ := scanFrom_append h
    refine ⟨evs₀, o, q, heq, fun s => ?_⟩
    simp only [String.toList_append, hpre, List.cons_append, if_neg hbom]
    rw [← List.cons_append]
    exact hs s.toList

/-- Two lists of events that end a trace the same way are the same. -/
theorem Trace.prepend_done_injective {xs ys : List Event}
    (h : Trace.prepend xs .done = Trace.prepend ys .done) : xs = ys := by
  obtain ⟨rest, rfl, hrest⟩ := Trace.prepend_eq_prepend_done h
  cases rest with
  | nil => exact (List.append_nil xs).symm
  | cons => cases hrest

/-- Input splits at its first `<`: the character data before it, and the rest from there. -/
theorem exists_gathered (s : List Char) :
    ∃ t post, s = t ++ post ∧ '<' ∉ t ∧ (post = [] ∨ post.head? = some '<') := by
  induction s with
  | nil => exact ⟨[], [], rfl, List.not_mem_nil, .inl rfl⟩
  | cons c cs ih =>
    by_cases hc : c = '<'
    · exact ⟨[], c :: cs, rfl, List.not_mem_nil, .inr (by rw [hc]; rfl)⟩
    · obtain ⟨t, post, rfl, ht, hpost⟩ := ih
      exact ⟨c :: t, post, rfl, fun h => (List.mem_cons.1 h).elim (fun h' => hc h'.symm) ht, hpost⟩

/-- At a `<` or at the end of the input, the character data gathered so far becomes one event. -/
theorem scanFrom_gathered {post : List Char} (h : post = [] ∨ post.head? = some '<')
    (st : List String) (q : List Char) :
    scanFrom st q post = Trace.flush q (scanFrom st [] post) := by
  rcases h with rfl | h
  · rw [scanFrom, scanFrom]
    rfl
  · obtain ⟨cs, rfl⟩ : ∃ cs, post = '<' :: cs := by
      cases post with
      | nil => cases h
      | cons c cs =>
        simp only [List.head?_cons, Option.some.injEq] at h
        exact ⟨cs, by rw [h]⟩
    rw [scanFrom, if_pos rfl, scanFrom, if_pos rfl]
    rfl

/-- Blanks are none of `<`, `&` and the byte order mark. -/
theorem ne_of_isBlank {c : Char} (h : isBlank c = true) :
    c ≠ '<' ∧ c ≠ '&' ∧ c ≠ Char.ofNat 0xFEFF := by
  simp only [isBlank, Bool.or_eq_true, decide_eq_true_eq] at h
  rcases h with ((rfl | rfl) | rfl) | rfl <;> decide

/-- Blanks at the very start of an input are gathered as character data in front of what the
input then begins with, a byte order mark there included. -/
theorem scan_blanks_append {w : String} (hw : ∀ c ∈ w.toList, isBlank c = true) (hne : w ≠ "")
    (s : String) :
    ∃ extra s', '&' ∉ extra ∧ scan s = scanFrom [] [] s' ∧
      scan (w ++ s) = scanFrom [] ((w.toList ++ extra).reverse ++ []) s' := by
  obtain ⟨c, cs, hc⟩ : ∃ c cs, w.toList = c :: cs := by
    cases hl : w.toList with
    | nil => exact absurd (String.toList_eq_nil_iff.1 hl) hne
    | cons c cs => exact ⟨c, cs, rfl⟩
  have hlt : '<' ∉ w.toList := fun h => (ne_of_isBlank (hw _ h)).1 rfl
  have hbom : c ≠ Char.ofNat 0xFEFF := (ne_of_isBlank (hw c (by rw [hc]; exact List.mem_cons_self))).2.2
  -- the input begins with a blank, so no byte order mark is dropped in front of it
  have hws : scan (w ++ s) = scanFrom [] w.toList.reverse s.toList := by
    unfold scan
    simp only [String.toList_append, hc, List.cons_append, if_neg hbom]
    rw [← List.cons_append, ← hc, scanFrom_chars _ _ _ hlt, List.append_nil]
  cases hs : s.toList with
  | nil =>
    refine ⟨[], [], List.not_mem_nil, ?_, ?_⟩
    · unfold scan
      rw [hs, scanFrom]
      rfl
    · rw [hws, hs, List.append_nil, List.append_nil]
  | cons d ds =>
    by_cases hd : d = Char.ofNat 0xFEFF
    · -- the byte order mark of `s` is read as character data after the blanks
      refine ⟨[d], ds, by simp [hd], ?_, ?_⟩
      · unfold scan
        simp only [hs, if_pos hd]
      · have hdlt : d ≠ '<' := by rw [hd]; decide
        rw [hws, hs, scanFrom, if_neg hdlt]
        simp
    · refine ⟨[], d :: ds, List.not_mem_nil, ?_, ?_⟩
      · unfold scan
        simp only [hs, if_neg hd]
      · rw [hws, hs]
        simp

/-! ## Elements open after a prefix -/

theorem Matched.of_append {S : List String} {xs ys : List Event} (h : Matched S (xs ++ ys)) :
    Matched S xs := by
  induction xs generalizing S with
  | nil => trivial
  | cons ev xs ih => exact ⟨h.1, ih h.2⟩

/-- After the start tag of an element, the events nest from the open elements with that element
innermost. -/
theorem Matched.drop_start {S : List String} {evs : List Event} (h : Matched S evs) {i : Nat}
    {t : Tag} (hi : evs[i]? = some (.start t)) : ∃ S', Matched (t.name :: S') (evs.drop (i + 1)) := by
  induction evs generalizing S i with
  | nil => simp at hi
  | cons ev evs ih =>
    cases i with
    | zero =>
      simp only [List.getElem?_cons_zero, Option.some.injEq] at hi
      subst hi
      exact ⟨S, h.2⟩
    | succ i => exact ih h.2 hi

/-- Past an element that is still open at the end of `xs`, the cut for it goes on into what
follows, from the number of elements left open inside it. -/
theorem splitElement_append_of_unclosed {d : Nat} {xs : List Event} (h : (splitElement d xs).2 = none) :
    ∃ k, ∀ ys, splitElement d (xs ++ ys) = (xs ++ (splitElement k ys).1, (splitElement k ys).2) := by
  induction xs generalizing d with
  | nil => exact ⟨d, fun ys => rfl⟩
  | cons ev xs ih =>
    cases ev with
    | start t =>
      obtain ⟨k, hk⟩ := ih (d := d + 1) h
      exact ⟨k, fun ys => by simp [splitElement, hk]⟩
    | close n =>
      cases d with
      | zero => simp [splitElement] at h
      | succ d =>
        obtain ⟨k, hk⟩ := ih (d := d) h
        exact ⟨k, fun ys => by simp [splitElement, hk]⟩
    | empty t | text raw | cdata c | aside =>
      obtain ⟨k, hk⟩ := ih (d := d) (by simpa using h)
      exact ⟨k, fun ys => by simp [hk]⟩

/-! ## References end at their `;` -/

/-- Whether a reference is open after one more character: a `&` opens one and a `;` closes it. -/
def referenceStep (opened : Bool) (c : Char) : Bool :=
  if c = '&' then true else if c = ';' then false else opened

/-- Every `&` of the text has a `;` after it: the text does not stop inside a reference. -/
def ReferencesClosed (raw : List Char) : Prop :=
  ∀ a b, raw = a ++ '&' :: b → ';' ∈ b

/-- Reading on from a text in which every `&` has a `;` after it, and which closes the reference
open before it if there is one, leaves no reference open. -/
theorem ReferencesClosed.foldl_referenceStep {raw : List Char} (h : ReferencesClosed raw)
    {opened : Bool} (hopen : opened = true → ';' ∈ raw) :
    raw.foldl referenceStep opened = false := by
  induction raw generalizing opened with
  | nil => simpa using hopen
  | cons c cs ih =>
    rw [List.foldl_cons]
    refine ih (fun a b hcs => by simpa using h (c :: a) b (by rw [hcs]; rfl)) fun hstep => ?_
    unfold referenceStep at hstep
    by_cases hamp : c = '&'
    · -- the `&` read now needs its `;` further on
      exact h [] cs (by rw [hamp]; rfl)
    · by_cases hsemi : c = ';'
      · simp [hsemi] at hstep
      · simp only [hamp, hsemi, if_false] at hstep
        simpa [Ne.symm hsemi] using hopen hstep

theorem resolveReference_toOption (first last first' last' : Nat) (body : List Char) :
    (resolveReference first last body).toOption = (resolveReference first' last' body).toOption := by
  unfold resolveReference
  split
  · cases charOfReference _ <;> rfl
  · dsimp only
    cases predefinedEntity (String.ofList body) <;> rfl

/-- Whether a text unescapes depends neither on where it stands nor on what came out before it. -/
theorem unescapeFrom_isOk_eq (cs : List Char) {total total' pos pos' : Nat}
    {st st' : Option (Nat × List Char)} (hst : st.map Prod.snd = st'.map Prod.snd)
    (out out' : String) :
    (unescapeFrom total cs pos st out).isOk = (unescapeFrom total' cs pos' st' out').isOk := by
  induction cs generalizing pos pos' st st' out out' with
  | nil =>
    cases st <;> cases st' <;> first | rfl | simp at hst
  | cons c cs ih =>
    cases st with
    | none =>
      cases st' with
      | some => simp at hst
      | none =>
        simp only [unescapeFrom]
        split <;> exact ih (by rfl) _ _
    | some entry =>
      obtain ⟨start, body⟩ := entry
      cases st' with
      | none => simp at hst
      | some entry' =>
        obtain ⟨start', body'⟩ := entry'
        simp only [Option.map_some, Option.some.injEq] at hst
        subst hst
        simp only [unescapeFrom]
        by_cases hsemi : c = ';'
        · -- the reference ends: both read it the same way
          rw [if_pos hsemi, if_pos hsemi]
          have hres := resolveReference_toOption (start + 1) pos (start' + 1) pos' body.reverse
          cases h₁ : resolveReference (start + 1) pos body.reverse <;>
            cases h₂ : resolveReference (start' + 1) pos' body.reverse <;>
            simp only [h₁, h₂, Except.toOption, reduceCtorEq, Option.some.injEq] at hres
          · rfl
          · subst hres
            exact ih (by rfl) _ _
        · rw [if_neg hsemi, if_neg hsemi]
          split
          · rfl
          · exact ih (by rfl) _ _

/-- A text is read from left to right: over a prefix, the reading either fails whatever follows,
or comes to a state, with a reference open exactly as the prefix leaves one, from which it reads
what follows. -/
theorem unescapeFrom_prefix (t : List Char) (pos : Nat) (st : Option (Nat × List Char))
    (out : String) :
    (∀ total rest, (unescapeFrom total (t ++ rest) pos st out).isOk = false) ∨
      ∃ pos₁ st₁ out₁, st₁.isSome = t.foldl referenceStep st.isSome ∧
        ∀ total rest, unescapeFrom total (t ++ rest) pos st out = unescapeFrom total rest pos₁ st₁ out₁ := by
  induction t generalizing pos st out with
  | nil => exact .inr ⟨pos, st, out, rfl, fun _ _ => rfl⟩
  | cons c t ih =>
    cases st with
    | none =>
      by_cases hamp : c = '&'
      · rcases ih (pos + c.utf8Size) (some (pos, [])) out with hfail | ⟨pos₁, st₁, out₁, hst, hrun⟩
        · exact .inl fun total rest => by
            rw [List.cons_append, unescapeFrom, if_pos hamp, hfail]
        · refine .inr ⟨pos₁, st₁, out₁, ?_, fun total rest => ?_⟩
          · simp [hst, referenceStep, hamp]
          · rw [List.cons_append, unescapeFrom, if_pos hamp, hrun]
      · rcases ih (pos + c.utf8Size) none (out.push c) with hfail | ⟨pos₁, st₁, out₁, hst, hrun⟩
        · exact .inl fun total rest => by
            rw [List.cons_append, unescapeFrom, if_neg hamp, hfail]
        · refine .inr ⟨pos₁, st₁, out₁, ?_, fun total rest => ?_⟩
          · rw [hst, List.foldl_cons, referenceStep, if_neg hamp]
            split <;> rfl
          · rw [List.cons_append, unescapeFrom, if_neg hamp, hrun]
    | some entry =>
      obtain ⟨start, body⟩ := entry
      by_cases hsemi : c = ';'
      · cases hres : resolveReference (start + 1) pos body.reverse with
        | error e =>
          exact .inl fun total rest => by
            rw [List.cons_append, unescapeFrom, if_pos hsemi, hres]
            rfl
        | ok text =>
          rcases ih (pos + 1) none (out ++ text) with hfail | ⟨pos₁, st₁, out₁, hst, hrun⟩
          · exact .inl fun total rest => by
              rw [List.cons_append, unescapeFrom, if_pos hsemi, hres]
              exact hfail total rest
          · refine .inr ⟨pos₁, st₁, out₁, ?_, fun total rest => ?_⟩
            · simp [hst, referenceStep, hsemi]
            · rw [List.cons_append, unescapeFrom, if_pos hsemi, hres]
              exact hrun total rest
      · by_cases hamp : c = '&'
        · exact .inl fun total rest => by
            rw [List.cons_append, unescapeFrom, if_neg hsemi, if_pos hamp]
            rfl
        · rcases ih (pos + c.utf8Size) (some (start, c :: body)) out with
            hfail | ⟨pos₁, st₁, out₁, hst, hrun⟩
          · exact .inl fun total rest => by
              rw [List.cons_append, unescapeFrom, if_neg hsemi, if_neg hamp, hfail]
          · refine .inr ⟨pos₁, st₁, out₁, ?_, fun total rest => ?_⟩
            · simp [hst, referenceStep, hsemi, hamp]
            · rw [List.cons_append, unescapeFrom, if_neg hsemi, if_neg hamp, hrun]

/-- Characters other than `&` are passed over one by one. -/
theorem unescapeFrom_plain_append (total : Nat) {u : List Char} (hu : '&' ∉ u) (rest : List Char)
    (pos : Nat) (out : String) :
    ∃ pos₁ out₁, unescapeFrom total (u ++ rest) pos none out = unescapeFrom total rest pos₁ none out₁ := by
  induction u generalizing pos out with
  | nil => exact ⟨pos, out, rfl⟩
  | cons c u ih =>
    have hc : c ≠ '&' := fun h => hu (h ▸ List.mem_cons_self)
    obtain ⟨pos₁, out₁, h⟩ := ih (fun h => hu (List.mem_cons_of_mem c h)) (pos + c.utf8Size) (out.push c)
    exact ⟨pos₁, out₁, by rw [List.cons_append, unescapeFrom, if_neg hc, h]⟩

/-- Characters other than `&`, put where no reference is open, change nothing about whether a
text unescapes. -/
theorem unescape_insert_isOk {t₁ u : List Char} (ht : ReferencesClosed t₁) (hu : '&' ∉ u)
    (t₂ : List Char) : (unescape (t₁ ++ u ++ t₂)).isOk = (unescape (t₁ ++ t₂)).isOk := by
  unfold unescape
  rw [List.append_assoc]
  rcases unescapeFrom_prefix t₁ 0 none "" with hfail | ⟨pos₁, st₁, out₁, hst, hrun⟩
  · rw [hfail, hfail]
  · -- past `t₁` no reference is open
    have hclosed : t₁.foldl referenceStep false = false := ht.foldl_referenceStep (by simp)
    have hnone : st₁ = none := by
      rw [Option.isSome_none, hclosed] at hst
      cases st₁ with
      | none => rfl
      | some _ => cases hst
    subst hnone
    rw [hrun, hrun]
    obtain ⟨pos₂, out₂, hplain⟩ := unescapeFrom_plain_append _ hu t₂ pos₁ out₁
    rw [hplain]
    exact unescapeFrom_isOk_eq t₂ rfl _ _

end Phrasebook.Markup
