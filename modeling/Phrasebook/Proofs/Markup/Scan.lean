import Phrasebook.Markup.Event
import Phrasebook.Proofs.Markup.Attribute

/-! # Scanning written markup

The scanner cuts what the pen writes back into the pieces it was written from. Every piece
other than text becomes one event; the line break and indentation written before a piece come
back as character data of their own; the text of a piece comes back escaped, as one event, when
it is not empty.

This holds for pieces whose names are plain, whose end tags close the element opened last, and
whose text is followed by markup (so that two texts never run together, and the last piece is
not text). The main statement is `scanFrom_written`; it follows, piece by piece, from one lemma
per kind of markup.
-/

namespace Phrasebook.Markup

/-- A line break, then four blanks per level. -/
def indentLine (depth : Nat) : String :=
  "\n" ++ String.ofList (List.replicate (4 * depth) ' ')

/-- The markup of a piece itself, without what comes before it. -/
def Piece.markup : Piece → String
  | .text s => escape s
  | .start n as => "<" ++ n ++ renderAttributes as ++ ">"
  | .close n => "</" ++ n ++ ">"
  | .empty n as => "<" ++ n ++ renderAttributes as ++ "/>"
  | .declaration c => "<?" ++ c ++ "?>"
  | .doctype c => "<!DOCTYPE " ++ c ++ ">"

/-- The events a reader gets for a piece. -/
def Piece.events : Piece → List Event
  | .text s => if s = "" then [] else [.text (escape s).toList]
  | .start n as => [.start ⟨n, (n ++ renderAttributes as).toList⟩]
  | .close n => [.close n]
  | .empty n as => [.empty ⟨n, (n ++ renderAttributes as).toList⟩]
  | .declaration _ => [.aside]
  | .doctype _ => [.aside]

/-- Whether a piece is character data. -/
def Piece.isText : Piece → Bool
  | .text _ => true
  | _ => false

namespace Pen

/-- What the pen writes before a piece: a line break and indentation, when one is due. -/
def lead (p : Pen) : Piece → String
  | .text _ => ""
  | .close _ => if p.breakLine then indentLine (p.depth - 1) else ""
  | _ => if p.breakLine then indentLine p.depth else ""

/-- What the pen writes for pieces, from its state. -/
def written (p : Pen) : List Piece → String
  | [] => ""
  | x :: xs => p.lead x ++ x.markup ++ (p.put x).written xs

/-- The events of what the pen writes for pieces: each piece's line break, as character data,
then the piece's own events. -/
def events (p : Pen) : List Piece → List Event
  | [] => []
  | x :: xs =>
    (if p.lead x = "" then [] else [.text (p.lead x).toList]) ++ x.events ++ (p.put x).events xs

theorem newline_out (p : Pen) :
    p.newline.out = p.out ++ if p.breakLine then indentLine p.depth else "" := by
  unfold newline indentLine
  split <;> simp [String.append_assoc]

@[simp] theorem newline_depth (p : Pen) : p.newline.depth = p.depth := by
  unfold newline
  split <;> rfl

theorem put_out (p : Pen) (x : Piece) : (p.put x).out = p.out ++ p.lead x ++ x.markup := by
  cases x <;> simp [put, lead, Piece.markup, newline_out, String.append_assoc]

@[simp] theorem put_breakLine (p : Pen) (x : Piece) : (p.put x).breakLine = !x.isText := by
  cases x <;> rfl

theorem foldl_put_out (p : Pen) (ps : List Piece) : (ps.foldl put p).out = p.out ++ p.written ps := by
  induction ps generalizing p with
  | nil => simp [written]
  | cons x xs ih => simp [written, ih, put_out, String.append_assoc]

end Pen

/-- Emits the character data read so far (kept reversed), if any, before what follows. -/
def Trace.flush (pending : List Char) (t : Trace) : Trace :=
  if pending.isEmpty then t else .event (.text pending.reverse) t

/-- Events, then a trace. -/
def Trace.prepend : List Event → Trace → Trace
  | [], t => t
  | e :: es, t => .event e (prepend es t)

@[simp] theorem Trace.prepend_nil (t : Trace) : Trace.prepend [] t = t := rfl

@[simp] theorem Trace.prepend_cons (e : Event) (es : List Event) (t : Trace) :
    Trace.prepend (e :: es) t = .event e (Trace.prepend es t) := rfl

theorem Trace.prepend_append (es fs : List Event) (t : Trace) :
    Trace.prepend (es ++ fs) t = Trace.prepend es (Trace.prepend fs t) := by
  induction es with
  | nil => rfl
  | cons e es ih => simp [ih]

/-! ## Cutting at a `>` -/

theorem cutAt_append {σ : Type} (update : σ → Char → σ) (ends : σ → List Char → Bool) (xs rest : List Char)
    (hx : '>' ∉ xs) (st : σ) (acc : List Char) :
    cutAt update ends st acc (xs ++ rest) = cutAt update ends (xs.foldl update st) (xs.reverse ++ acc) rest := by
  induction xs generalizing st acc with
  | nil => rfl
  | cons c cs ih =>
    have hc : c ≠ '>' := fun h => hx (h ▸ List.mem_cons_self)
    rw [List.cons_append, cutAt, if_neg (by simp [hc]), ih (fun h => hx (List.mem_cons_of_mem c h))]
    simp

theorem cutAt_close {σ : Type} (update : σ → Char → σ) (ends : σ → List Char → Bool) (st : σ)
    (acc rest : List Char) (h : ends st acc = true) :
    cutAt update ends st acc ('>' :: rest) = some (acc.reverse, rest) := by
  simp [cutAt, h]

theorem foldl_quoting_outside (xs : List Char) (hx : ∀ c ∈ xs, c ≠ apostrophe ∧ c ≠ '"') :
    xs.foldl Quoting.step .outside = .outside := by
  induction xs with
  | nil => rfl
  | cons c cs ih =>
    obtain ⟨h₁, h₂⟩ := hx c List.mem_cons_self
    simp only [List.foldl_cons, Quoting.step, if_neg h₁, if_neg h₂]
    exact ih fun x hx' => hx x (List.mem_cons_of_mem c hx')

theorem foldl_quoting_double (xs : List Char) (hx : '"' ∉ xs) :
    xs.foldl Quoting.step .double = .double := by
  induction xs with
  | nil => rfl
  | cons c cs ih =>
    have hc : c ≠ '"' := fun h => hx (h ▸ List.mem_cons_self)
    simp only [List.foldl_cons, Quoting.step, if_neg hc]
    exact ih fun h => hx (List.mem_cons_of_mem c h)

theorem alpha_not_quote {c : Char} (hc : c.isAlpha = true) : c ≠ apostrophe ∧ c ≠ '"' :=
  ⟨ne_of_isAlpha hc (by decide), ne_of_isAlpha hc (by decide)⟩

theorem PlainName.not_gt {n : String} (hn : PlainName n) : '>' ∉ n.toList :=
  fun h => ne_of_isAlpha (hn.2 _ h) (by decide) rfl

theorem foldl_quoting_attributes (attrs : List (String × String)) (hk : ∀ kv ∈ attrs, PlainName kv.1)
    (q : Quoting) (hq : q = .outside) :
    (renderAttributes attrs).toList.foldl Quoting.step q = .outside := by
  subst hq
  rw [renderAttributes_toList]
  induction attrs with
  | nil => rfl
  | cons kv attrs ih =>
    have hkey : kv.1.toList.foldl Quoting.step .outside = .outside :=
      foldl_quoting_outside _ fun c hc => alpha_not_quote ((hk kv List.mem_cons_self).2 c hc)
    have hval := foldl_quoting_double (escape kv.2).toList (not_mem_escape (by simp) kv.2)
    have blank : Quoting.step .outside ' ' = .outside := by decide
    have eq : Quoting.step .outside '=' = .outside := by decide
    have opening : Quoting.step .outside '"' = .double := by decide
    have closing : Quoting.step .double '"' = .outside := by decide
    simp only [List.flatMap_cons, List.foldl_append, List.foldl_cons, List.foldl_nil, blank, hkey, eq,
      opening, hval, closing]
    exact ih fun kv h => hk kv (List.mem_cons_of_mem _ h)

theorem not_gt_attributes (attrs : List (String × String)) (hk : ∀ kv ∈ attrs, PlainName kv.1) :
    '>' ∉ (renderAttributes attrs).toList := by
  rw [renderAttributes_toList]
  simp only [List.mem_flatMap, List.mem_cons, List.mem_append, not_exists, not_and]
  intro kv hkv
  have hg : '>' ∉ (escape kv.2).toList := not_mem_escape (by simp) kv.2
  have hn := (hk kv hkv).not_gt
  simp_all

theorem cutTag_rendered (n : String) (attrs : List (String × String)) (hn : PlainName n)
    (hk : ∀ kv ∈ attrs, PlainName kv.1) (tail rest : List Char) (ht : tail = [] ∨ tail = ['/']) :
    cutTag ((n ++ renderAttributes attrs).toList ++ tail ++ '>' :: rest) =
      some ((n ++ renderAttributes attrs).toList ++ tail, rest) := by
  have hname := foldl_quoting_outside n.toList fun c hc => alpha_not_quote (hn.2 c hc)
  have hcontent : '>' ∉ (n ++ renderAttributes attrs).toList ++ tail := by
    rcases ht with rfl | rfl <;> simp [String.toList_append, hn.not_gt, not_gt_attributes attrs hk]
  rw [cutTag, cutAt_append _ _ _ _ hcontent, cutAt_close]
  · simp
  · have slash : Quoting.step .outside '/' = .outside := by decide
    rcases ht with rfl | rfl <;>
      simp [String.toList_append, hname, foldl_quoting_attributes attrs hk, slash]

theorem nameOf_rendered (n : String) (attrs : List (String × String)) (hn : PlainName n) :
    nameOf (n ++ renderAttributes attrs).toList = n := by
  have hblank : ∀ c ∈ n.toList, (!isBlank c) = true := fun c hc => by simp [isBlank_of_isAlpha (hn.2 c hc)]
  rw [nameOf, String.toList_append, List.takeWhile_append_of_pos hblank, renderAttributes_toList]
  cases attrs with
  | nil => simp
  | cons kv attrs => simp [isBlank]

/-! ## One step per kind of markup -/

theorem attributes_end_quote (attrs : List (String × String)) (hne : attrs ≠ []) :
    ∃ init, (renderAttributes attrs).toList = init ++ ['"'] := by
  rw [renderAttributes_toList]
  induction attrs with
  | nil => exact absurd rfl hne
  | cons kv attrs ih =>
    cases attrs with
    | nil => exact ⟨' ' :: (kv.1.toList ++ '=' :: '"' :: (escape kv.2).toList), by simp⟩
    | cons kv' attrs' =>
      obtain ⟨init, h⟩ := ih (List.cons_ne_nil _ _)
      exact ⟨_ ++ init, by rw [List.flatMap_cons, h, List.append_assoc]⟩

theorem getLast?_rendered_ne (n : String) (attrs : List (String × String)) (hn : PlainName n) :
    ((n ++ renderAttributes attrs).toList.getLast? == some '/') = false := by
  by_cases ha : attrs = []
  · subst ha
    obtain ⟨c, hc⟩ := Option.isSome_iff_exists.1 (List.getLast?_isSome.2 hn.1)
    have halpha := hn.2 c (List.mem_of_getLast? hc)
    simp [renderAttributes, hc, ne_of_isAlpha halpha (x := '/') (by decide)]
  · obtain ⟨init, h⟩ := attributes_end_quote attrs ha
    simp [String.toList_append, h]

theorem openStep_of_cut (st : List String) {s buf r : List Char} (h : cutTag s = some (buf, r)) :
    ∃ hr, openStep st s =
      if buf.getLast? == some '/' then .ok (.empty ⟨nameOf buf.dropLast, buf.dropLast⟩, st, ⟨r, hr⟩)
      else .ok (.start ⟨nameOf buf, buf⟩, nameOf buf :: st, ⟨r, hr⟩) := by
  refine ⟨cutAt_length h, ?_⟩
  unfold openStep
  split
  · rename_i hnone
    rw [h] at hnone
    cases hnone
  · rename_i buf' r' hsome
    rw [h] at hsome
    cases hsome
    rfl

theorem markupStep_alpha {c : Char} (hc : c.isAlpha = true) (st : List String) (more : List Char) :
    markupStep st (c :: more) = openStep st (c :: more) := by
  have h₁ : c ≠ '!' := ne_of_isAlpha hc (by decide)
  have h₂ : c ≠ '?' := ne_of_isAlpha hc (by decide)
  have h₃ : c ≠ '/' := ne_of_isAlpha hc (by decide)
  exact markupStep.eq_5 st c more h₁ h₂ h₃

/-- A written start or empty-element tag; `tail` is the `/` of an empty-element tag, if any. -/
theorem markupStep_tag (n : String) (attrs : List (String × String)) (hn : PlainName n)
    (hk : ∀ kv ∈ attrs, PlainName kv.1) (st : List String) (tail rest : List Char)
    (ht : tail = [] ∨ tail = ['/']) :
    ∃ hr, markupStep st ((n ++ renderAttributes attrs).toList ++ tail ++ '>' :: rest) =
      if tail = [] then .ok (.start ⟨n, (n ++ renderAttributes attrs).toList⟩, n :: st, ⟨rest, hr⟩)
      else .ok (.empty ⟨n, (n ++ renderAttributes attrs).toList⟩, st, ⟨rest, hr⟩) := by
  obtain ⟨c, cs, hcs⟩ := List.exists_cons_of_ne_nil hn.1
  have hc : c.isAlpha = true := hn.2 c (by simp [hcs])
  obtain ⟨hr, h⟩ := openStep_of_cut st (cutTag_rendered n attrs hn hk tail rest ht)
  refine ⟨hr, ?_⟩
  have hfirst : (n ++ renderAttributes attrs).toList ++ tail ++ '>' :: rest =
      c :: (cs ++ (renderAttributes attrs).toList ++ tail ++ '>' :: rest) := by
    simp [String.toList_append, hcs]
  have hm : markupStep st ((n ++ renderAttributes attrs).toList ++ tail ++ '>' :: rest) =
      openStep st ((n ++ renderAttributes attrs).toList ++ tail ++ '>' :: rest) := by
    rw [hfirst]
    exact markupStep_alpha hc st _
  rw [hm, h]
  rcases ht with rfl | rfl
  · rw [if_pos rfl]
    simp only [List.append_nil, getLast?_rendered_ne n attrs hn, nameOf_rendered n attrs hn,
      Bool.false_eq_true, if_false]
  · rw [if_neg (List.cons_ne_nil _ _), List.getLast?_concat, List.dropLast_concat,
      nameOf_rendered n attrs hn]
    simp

theorem closeName_plain (n : String) (hn : PlainName n) : closeName n.toList = n := by
  obtain ⟨c, hc⟩ := Option.isSome_iff_exists.1 (List.getLast?_isSome.2 hn.1)
  have hblank : isBlank c = false := isBlank_of_isAlpha (hn.2 c (List.mem_of_getLast? hc))
  obtain ⟨init, hinit⟩ : ∃ init, n.toList = init ++ [c] := by
    obtain ⟨init, h⟩ := List.getLast?_eq_some_iff.1 hc
    exact ⟨init, h⟩
  have htrim : (n.toList.reverse.dropWhile isBlank).reverse = n.toList := by
    rw [hinit, List.reverse_append, List.reverse_singleton, List.singleton_append,
      List.dropWhile_cons_of_neg (by simp [hblank])]
    simp
  simp [closeName, htrim, hn.1]

theorem closeStep_of_cut {top : String} {outer : List String} {s buf r : List Char}
    (h : cutTag s = some (buf, r)) (htop : closeName (buf.drop 1) = top) :
    ∃ hr, closeStep (top :: outer) s = .ok (.close top, outer, ⟨r, hr⟩) := by
  refine ⟨cutAt_length h, ?_⟩
  unfold closeStep
  split
  · rename_i hnone
    rw [h] at hnone
    cases hnone
  · rename_i buf' r' hsome
    rw [h] at hsome
    cases hsome
    rw [List.drop_one] at htop
    simp [htop]

/-- A written end tag closes the element opened last. -/
theorem markupStep_close (n : String) (hn : PlainName n) (outer : List String) (rest : List Char) :
    ∃ hr, markupStep (n :: outer) ('/' :: (n.toList ++ '>' :: rest)) =
      .ok (.close n, outer, ⟨rest, hr⟩) := by
  have hcontent : '>' ∉ '/' :: n.toList := by simp [hn.not_gt]
  have hname := foldl_quoting_outside n.toList fun c hc => alpha_not_quote (hn.2 c hc)
  have hcut : cutTag ('/' :: n.toList ++ '>' :: rest) = some ('/' :: n.toList, rest) := by
    have slash : Quoting.step .outside '/' = .outside := by decide
    rw [cutTag, cutAt_append _ _ _ _ hcontent, cutAt_close] <;> simp [hname, slash]
  rw [markupStep.eq_4]
  exact closeStep_of_cut hcut (by simpa using closeName_plain n hn)

theorem foldl_doctype_depth (xs : List Char) (hl : '<' ∉ xs) (hg : '>' ∉ xs) :
    xs.foldl (fun (depth : Nat) c => if c = '<' then depth + 1 else if c = '>' then depth - 1 else depth) 0 = 0 := by
  induction xs with
  | nil => rfl
  | cons c cs ih =>
    have h₁ : c ≠ '<' := fun h => hl (h ▸ List.mem_cons_self)
    have h₂ : c ≠ '>' := fun h => hg (h ▸ List.mem_cons_self)
    simp only [List.foldl_cons, if_neg h₁, if_neg h₂]
    exact ih (fun h => hl (List.mem_cons_of_mem c h)) (fun h => hg (List.mem_cons_of_mem c h))

theorem doctype_of_cut {s buf r : List Char} (h : cutDoctype s = some (buf, r))
    (hs : startsUncased buf "!DOCTYPE" = true) (hb : (buf.drop 8).all isBlank = false) :
    ∃ hr, bangStep.doctype s = .ok (.aside, ⟨r, hr⟩) := by
  refine ⟨cutAt_length h, ?_⟩
  unfold bangStep.doctype
  split
  · rename_i hnone
    rw [h] at hnone
    cases hnone
  · rename_i buf' r' hsome
    rw [h] at hsome
    cases hsome
    simp [hs, hb]

theorem markupStep_doctype (c : String) (hl : '<' ∉ c.toList) (hg : '>' ∉ c.toList)
    (hname : ∃ x ∈ c.toList, isBlank x = false) (st : List String) (rest : List Char) :
    ∃ hr, markupStep st ('!' :: 'D' :: ("OCTYPE ".toList ++ c.toList ++ '>' :: rest)) =
      .ok (.aside, st, ⟨rest, hr⟩) := by
  have hcontent : '>' ∉ "!DOCTYPE ".toList ++ c.toList := by simp [hg]
  have hsplit : '!' :: 'D' :: ("OCTYPE ".toList ++ c.toList ++ '>' :: rest) =
      "!DOCTYPE ".toList ++ c.toList ++ '>' :: rest := by simp
  have hcut : cutDoctype ('!' :: 'D' :: ("OCTYPE ".toList ++ c.toList ++ '>' :: rest)) =
      some ("!DOCTYPE ".toList ++ c.toList, rest) := by
    rw [hsplit, cutDoctype, cutAt_append _ _ _ _ hcontent, cutAt_close] <;>
      simp [foldl_doctype_depth c.toList hl hg]
  have hstarts : startsUncased ("!DOCTYPE ".toList ++ c.toList) "!DOCTYPE" = true := by
    rw [startsUncased, List.take_append_of_le_length (by decide)]
    decide
  have hblank : ((("!DOCTYPE ".toList ++ c.toList).drop 8).all isBlank) = false := by
    obtain ⟨x, hx, hxb⟩ := hname
    simp only [List.all_eq_false]
    exact ⟨x, by simp [hx], by simp [hxb]⟩
  obtain ⟨hr, hd⟩ := doctype_of_cut hcut hstarts hblank
  have hbang : bangStep ('!' :: 'D' :: ("OCTYPE ".toList ++ c.toList ++ '>' :: rest)) =
      bangStep.doctype ('!' :: 'D' :: ("OCTYPE ".toList ++ c.toList ++ '>' :: rest)) := by
    simp only [bangStep, List.drop_one, List.tail_cons]
  refine ⟨hr, ?_⟩
  rw [markupStep.eq_2, hbang, hd]

theorem processingStep_of_cut {s buf r : List Char} (h : cutProcessing s = some (buf, r))
    (hl : buf.length > 1) : ∃ hr, processingStep s = .ok (.aside, ⟨r, hr⟩) := by
  refine ⟨cutAt_length h, ?_⟩
  unfold processingStep
  split
  · rename_i hnone
    rw [h] at hnone
    cases hnone
  · rename_i buf' r' hsome
    rw [h] at hsome
    cases hsome
    simp [hl]

theorem markupStep_declaration (c : String) (hg : '>' ∉ c.toList) (st : List String) (rest : List Char) :
    ∃ hr, markupStep st ('?' :: (c.toList ++ '?' :: '>' :: rest)) = .ok (.aside, st, ⟨rest, hr⟩) := by
  have hcontent : '>' ∉ '?' :: c.toList ++ ['?'] := by simp [hg]
  have hsplit : '?' :: (c.toList ++ '?' :: '>' :: rest) = '?' :: c.toList ++ ['?'] ++ '>' :: rest := by simp
  have hcut : cutProcessing ('?' :: (c.toList ++ '?' :: '>' :: rest)) =
      some ('?' :: c.toList ++ ['?'], rest) := by
    rw [hsplit, cutProcessing, cutAt_append _ _ _ _ hcontent, cutAt_close] <;> simp
  obtain ⟨hr, hp⟩ := processingStep_of_cut hcut (by simp)
  refine ⟨hr, ?_⟩
  rw [markupStep.eq_3, hp]

/-! ## Scanning piece by piece -/

/-- A piece of markup that the scanner reads as one event, taking the open elements from `st` to
`st'`: names are plain, an end tag closes the element opened last, a declaration holds no `>`,
and a document type names something and holds no `<` or `>`. -/
def Piece.Steps : Piece → List String → List String → Prop
  | .text _, _, _ => False
  | .start n as, st, st' => PlainName n ∧ (∀ kv ∈ as, PlainName kv.1) ∧ st' = n :: st
  | .close n, st, st' => PlainName n ∧ st = n :: st'
  | .empty n as, st, st' => PlainName n ∧ (∀ kv ∈ as, PlainName kv.1) ∧ st' = st
  | .declaration c, st, st' => '>' ∉ c.toList ∧ st' = st
  | .doctype c, st, st' =>
    '<' ∉ c.toList ∧ '>' ∉ c.toList ∧ (∃ x ∈ c.toList, isBlank x = false) ∧ st' = st

/-- Pieces that scan back one by one from the open elements `st`, leaving `st'` open: markup
pieces, each text followed by markup. -/
inductive Layable : List String → List Piece → List String → Prop
  | nil (st : List String) : Layable st [] st
  | markup {st st' st'' : List String} {x : Piece} {xs : List Piece} :
      x.Steps st st' → Layable st' xs st'' → Layable st (x :: xs) st''
  | text {st st' st'' : List String} (s : String) {y : Piece} {ys : List Piece} :
      y.Steps st st' → Layable st' ys st'' → Layable st (.text s :: y :: ys) st''

theorem Layable.append {st st' st'' : List String} {xs ys : List Piece} (hx : Layable st xs st')
    (hy : Layable st' ys st'') : Layable st (xs ++ ys) st'' := by
  induction hx with
  | nil => exact hy
  | markup hstep _ ih => exact .markup hstep (ih hy)
  | text s hstep _ ih => exact .text s hstep (ih hy)

/-- Character data is gathered, reversed, up to the next `<`. -/
theorem scanFrom_chars (st : List String) (w rest : List Char) (hw : '<' ∉ w) (pending : List Char) :
    scanFrom st pending (w ++ rest) = scanFrom st (w.reverse ++ pending) rest := by
  induction w generalizing pending with
  | nil => rfl
  | cons c cs ih =>
    have hc : c ≠ '<' := fun h => hw (h ▸ List.mem_cons_self)
    rw [List.cons_append, scanFrom, if_neg hc, ih (fun h => hw (List.mem_cons_of_mem c h))]
    simp

/-- Markup emits the character data gathered before it, then its own event. -/
theorem scanFrom_markup {st st' : List String} {cs rest : List Char} {ev : Event} {hr}
    (h : markupStep st cs = .ok (ev, st', ⟨rest, hr⟩)) (pending : List Char) :
    scanFrom st pending ('<' :: cs) = Trace.flush pending (.event ev (scanFrom st' [] rest)) := by
  rw [scanFrom, if_pos rfl]
  simp [h, Trace.flush]

/-- One piece of markup, after blanks: the scanner emits the blanks and what was gathered
before them, then the piece's event. -/
theorem scanFrom_piece {x : Piece} {st st' : List String} (hx : x.Steps st st') (pending lead rest : List Char)
    (hl : '<' ∉ lead) :
    scanFrom st pending (lead ++ x.markup.toList ++ rest) =
      Trace.flush (lead.reverse ++ pending) (Trace.prepend x.events (scanFrom st' [] rest)) := by
  rw [List.append_assoc, scanFrom_chars _ _ _ hl]
  cases x with
  | text s => exact hx.elim
  | start n as =>
    obtain ⟨hn, hk, hst⟩ := hx
    rw [hst]
    obtain ⟨hr, h⟩ := markupStep_tag n as hn hk st [] rest (.inl rfl)
    rw [if_pos rfl] at h
    have hw : (Piece.start n as).markup.toList ++ rest =
        '<' :: ((n ++ renderAttributes as).toList ++ [] ++ '>' :: rest) := by
      simp [Piece.markup, String.toList_append]
    rw [hw, scanFrom_markup h]
    rfl
  | close n =>
    obtain ⟨hn, hst⟩ := hx
    rw [hst]
    obtain ⟨hr, h⟩ := markupStep_close n hn st' rest
    have hw : (Piece.close n).markup.toList ++ rest = '<' :: '/' :: (n.toList ++ '>' :: rest) := by
      simp [Piece.markup, String.toList_append]
    rw [hw, scanFrom_markup h]
    rfl
  | empty n as =>
    obtain ⟨hn, hk, hst⟩ := hx
    rw [hst]
    obtain ⟨hr, h⟩ := markupStep_tag n as hn hk st ['/'] rest (.inr rfl)
    rw [if_neg (List.cons_ne_nil _ _)] at h
    have hw : (Piece.empty n as).markup.toList ++ rest =
        '<' :: ((n ++ renderAttributes as).toList ++ ['/'] ++ '>' :: rest) := by
      simp [Piece.markup, String.toList_append]
    rw [hw, scanFrom_markup h]
    rfl
  | declaration c =>
    obtain ⟨hg, hst⟩ := hx
    rw [hst]
    obtain ⟨hr, h⟩ := markupStep_declaration c hg st rest
    have hw : (Piece.declaration c).markup.toList ++ rest = '<' :: '?' :: (c.toList ++ '?' :: '>' :: rest) := by
      simp [Piece.markup, String.toList_append]
    rw [hw, scanFrom_markup h]
    rfl
  | doctype c =>
    obtain ⟨hl, hg, hname, hst⟩ := hx
    rw [hst]
    obtain ⟨hr, h⟩ := markupStep_doctype c hl hg hname st rest
    have hw : (Piece.doctype c).markup.toList ++ rest =
        '<' :: '!' :: 'D' :: ("OCTYPE ".toList ++ c.toList ++ '>' :: rest) := by
      simp [Piece.markup, String.toList_append]
    rw [hw, scanFrom_markup h]
    rfl

theorem not_lt_indentLine (depth : Nat) : '<' ∉ (indentLine depth).toList := by
  simp [indentLine, String.toList_append, List.mem_replicate]

theorem Pen.not_lt_lead (p : Pen) (x : Piece) : '<' ∉ (p.lead x).toList := by
  have hline : ∀ (b : Bool) (k : Nat), '<' ∉ (if b then indentLine k else "").toList := by
    intro b k
    cases b <;> simp [not_lt_indentLine]
  cases x with
  | text => simp [lead]
  | start => exact hline _ _
  | close => exact hline _ _
  | empty => exact hline _ _
  | declaration => exact hline _ _
  | doctype => exact hline _ _

theorem Pen.lead_of_not_breakLine {p : Pen} (h : p.breakLine = false) (x : Piece) : p.lead x = "" := by
  cases x <;> simp [lead, h]

theorem Trace.flush_toList (s : String) (t : Trace) :
    Trace.flush s.toList.reverse t = Trace.prepend (if s = "" then [] else [.text s.toList]) t := by
  by_cases hs : s = ""
  · subst hs
    rfl
  · have hne : s.toList ≠ [] := fun h => hs (String.toList_injective (by simpa using h))
    simp [flush, hs, hne]

/-- What the pen writes for scannable pieces is scanned back into their events. -/
theorem scanFrom_written {st st' : List String} {ps : List Piece} (h : Layable st ps st') (p : Pen)
    (rest : List Char) :
    scanFrom st [] ((p.written ps).toList ++ rest) = Trace.prepend (p.events ps) (scanFrom st' [] rest) := by
  induction h generalizing p with
  | nil => rfl
  | @markup st₀ st₁ st₂ x xs hx _ ih =>
    have hpiece := scanFrom_piece hx [] (p.lead x).toList (((p.put x).written xs).toList ++ rest)
      (p.not_lt_lead x)
    simp only [List.append_nil] at hpiece
    rw [Pen.written, String.toList_append, String.toList_append, List.append_assoc _ _ rest, hpiece, ih,
      Trace.flush_toList, Pen.events, Trace.prepend_append, Trace.prepend_append]
  | @text st₀ st₁ st₂ s y ys hy _ ih =>
    -- the text is gathered, then flushed by the markup right after it
    have hq : (p.put (.text s)).breakLine = false := by simp [Piece.isText]
    have hpiece := scanFrom_piece hy (escape s).toList.reverse []
      ((((p.put (.text s)).put y).written ys).toList ++ rest) (by simp)
    have hchars := scanFrom_chars st₀ (escape s).toList
      ((y.markup).toList ++ ((((p.put (.text s)).put y).written ys).toList ++ rest))
      (not_mem_escape (by simp) s) []
    simp only [List.nil_append, List.append_nil, List.reverse_nil] at hpiece hchars
    have htext : (escape s = "") = (s = "") := propext (escape_eq_empty_iff s)
    have hmarkup : (Piece.text s).markup = escape s := rfl
    rw [Pen.written, Pen.written, Pen.lead_of_not_breakLine hq, hmarkup]
    simp only [Pen.lead, String.toList_append, String.toList_empty, List.nil_append, List.append_assoc]
    rw [hchars, hpiece, ih, Trace.flush_toList, Pen.events, Pen.events, Pen.lead_of_not_breakLine hq]
    simp [Pen.lead, Piece.events, htext, Trace.prepend_append]

end Phrasebook.Markup
