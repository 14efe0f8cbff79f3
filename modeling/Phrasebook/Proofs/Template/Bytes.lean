import Phrasebook.Proofs.Template.Scan

/-! # The byte loop follows the character pass

Tokenizing walks the bytes of a text's UTF-8 encoding and cuts it at byte positions, then takes
each piece as a slice, which falls back to the empty text off character boundaries. Read over the
characters, it is the pass `scan`, and the two give the same tokens (`tokenize_eq_scan`).

One invariant carries the proof (`cutsFrom_follows_scan`): at every step the bytes before
`index` are the encoding of the characters read, and those before `start` the encoding of the
characters already cut. A character other than `%` is skipped byte by byte, since none of its
bytes is that of `%` (`percent_not_mem_utf8EncodeChar`). The placeholder after a `%` is read the
same way on bytes as on characters (`placeholderAt_encode`), since the bytes it tests are ASCII
characters or lead bytes from `0xC0`, and it takes only ASCII characters, one byte each. So every
cut starts and stops where the encoding of a prefix of the text ends: on character boundaries
(`isCharBoundary_encode`), with the text of the characters between as its slice
(`slice_encode`). No slice falls back to the empty text (`cutsFrom_on_boundaries`).
-/

namespace Phrasebook.Template

/-! ## The bytes of characters -/

/-- The UTF-8 encoding of characters. -/
def encode (cs : List Char) : List UInt8 := cs.flatMap String.utf8EncodeChar

@[simp] theorem encode_nil : encode [] = [] := rfl
theorem encode_cons (c : Char) (cs : List Char) : encode (c :: cs) = String.utf8EncodeChar c ++ encode cs :=
  List.flatMap_cons
@[simp] theorem encode_append (a b : List Char) : encode (a ++ b) = encode a ++ encode b :=
  List.flatMap_append

theorem bytesOf_eq_encode (text : String) : bytesOf text = encode text.toList := by
  rw [bytesOf, String.toUTF8_eq_toByteArray, ← String.utf8Encode_toList, List.utf8Encode,
    List.toList_data_toByteArray]
  rfl

theorem toNat_toUInt8_of_lt {c : Char} (h : c.toNat < 256) : c.toUInt8.toNat = c.toNat := by
  rw [← Char.toUInt8_val, UInt32.toNat_toUInt8, Char.toNat_val]
  omega

/-- A digit is an ASCII character. -/
theorem toNat_lt_of_le_nine {c : Char} (h : c ≤ '9') : c.toNat < 128 := by
  have : c.toNat ≤ 57 := h
  omega

theorem utf8EncodeChar_ascii {c : Char} (h : c.toNat < 128) : String.utf8EncodeChar c = [c.toUInt8] := by
  have h' : c.toNat ≤ 0x7f := by omega
  simp only [String.utf8EncodeChar, Char.toNat_val, h', if_true, List.cons.injEq, and_true]
  apply UInt8.toNat_inj.1
  rw [toNat_toUInt8_of_lt (by omega), UInt8.toNat_ofNat']
  omega

theorem utf8EncodeChar_wide {c : Char} (h : 128 ≤ c.toNat) :
    ∃ b bs, String.utf8EncodeChar c = b :: bs ∧ 0xC0 ≤ b.toNat ∧ ∀ x ∈ bs, 0x80 ≤ x.toNat := by
  have h' : ¬ c.toNat ≤ 0x7f := by omega
  have hlt : c.toNat < 0x110000 := by
    have := c.valid
    simp [UInt32.isValidChar, Nat.isValidChar] at this
    omega
  simp only [String.utf8EncodeChar, Char.toNat_val, h', if_false]
  -- two, three or four bytes: a lead byte from `0xC0`, then continuation bytes from `0x80`
  split
  · refine ⟨_, _, rfl, ?_, ?_⟩ <;> simp [UInt8.toNat_ofNat'] <;> omega
  · split
    · refine ⟨_, _, rfl, ?_, ?_⟩ <;> simp [UInt8.toNat_ofNat'] <;> omega
    · refine ⟨_, _, rfl, ?_, ?_⟩ <;> simp [UInt8.toNat_ofNat'] <;> omega

/-! ## The first byte of a character

The placeholder reader tests only the first byte of each character it looks at, against the bytes
of ASCII characters. The first byte of a character answers those tests as the character does: an
ASCII character is its own byte, and any other character starts with a byte from `0xC0`, above
every ASCII byte. -/

/-- The first byte of a character's encoding. -/
def headByte (c : Char) : UInt8 := (String.utf8EncodeChar c).headD 0

/-- A character's encoding is its first byte, then more bytes only when it is not ASCII. -/
theorem utf8EncodeChar_eq_headByte_cons (c : Char) :
    ∃ bs, String.utf8EncodeChar c = headByte c :: bs ∧ (c.toNat < 128 → bs = []) := by
  by_cases hc : c.toNat < 128
  · exact ⟨[], by rw [headByte, utf8EncodeChar_ascii hc]; rfl, fun _ => rfl⟩
  · obtain ⟨b, bs, hb, -, -⟩ := utf8EncodeChar_wide (Nat.le_of_not_lt hc)
    exact ⟨bs, by rw [headByte, hb]; rfl, fun h => absurd h hc⟩

theorem headByte_of_ascii {c : Char} (h : c.toNat < 128) : headByte c = c.toUInt8 := by
  rw [headByte, utf8EncodeChar_ascii h]
  rfl

theorem toNat_headByte_of_wide {c : Char} (h : 128 ≤ c.toNat) : 0xC0 ≤ (headByte c).toNat := by
  obtain ⟨b, bs, hb, hb192, -⟩ := utf8EncodeChar_wide h
  rw [headByte, hb]
  exact hb192

/-- The first byte of a character is an ASCII character's byte exactly when it is that character. -/
theorem headByte_eq_toUInt8_iff {c d : Char} (hd : d.toNat < 128) : headByte c = d.toUInt8 ↔ c = d := by
  rw [← UInt8.toNat_inj, toNat_toUInt8_of_lt (by omega), ← Char.toNat_inj]
  by_cases hc : c.toNat < 128
  · rw [headByte_of_ascii hc, toNat_toUInt8_of_lt (by omega)]
  · have := toNat_headByte_of_wide (Nat.le_of_not_lt hc)
    omega

/-- The first byte of a character lies between the bytes of two ASCII characters exactly when the
character lies between them. -/
theorem headByte_between_iff {c lo hi : Char} (hlo : lo.toNat < 128) (hhi : hi.toNat < 128) :
    (lo.toUInt8 ≤ headByte c ∧ headByte c ≤ hi.toUInt8) ↔ (lo ≤ c ∧ c ≤ hi) := by
  rw [UInt8.le_iff_toNat_le, UInt8.le_iff_toNat_le, toNat_toUInt8_of_lt (by omega),
    toNat_toUInt8_of_lt (by omega), Char.le_def, Char.le_def, UInt32.le_iff_toNat_le,
    UInt32.le_iff_toNat_le, Char.toNat_val, Char.toNat_val, Char.toNat_val]
  by_cases hc : c.toNat < 128
  · rw [headByte_of_ascii hc, toNat_toUInt8_of_lt (by omega)]
  · have := toNat_headByte_of_wide (Nat.le_of_not_lt hc)
    omega

theorem digit_headByte {c : Char} (h : c.toNat < 128) : digit (headByte c) = digitOf c := by
  rw [digit, digitOf, headByte_of_ascii h, toNat_toUInt8_of_lt (by omega)]

/-- The first byte of a character starts a character: it is below `0x80` or from `0xC0`. -/
theorem headByte_starts (c : Char) : (headByte c < 0x80 || 0xC0 ≤ headByte c) = true := by
  by_cases hc : c.toNat < 128
  · simp [UInt8.lt_iff_toNat_lt, headByte_of_ascii hc, toNat_toUInt8_of_lt (Nat.lt_trans hc (by decide)), hc]
  · simp [UInt8.le_iff_toNat_le, toNat_headByte_of_wide (Nat.le_of_not_lt hc)]

/-! ## Reading a placeholder from bytes -/

/-- The body of a placeholder reads the encoding of characters as it reads the characters. -/
theorem placeholderBody_encode (lead : Nat) (cs : List Char) :
    placeholderBody lead (encode cs) = bodyIn lead cs := by
  rcases cs with _ | ⟨d, more⟩
  · rfl
  obtain ⟨ds, hd, hds⟩ := utf8EncodeChar_eq_headByte_cons d
  rw [encode_cons, hd, List.cons_append]
  simp only [placeholderBody, bodyIn, headByte_eq_toUInt8_iff (by decide : 'n'.toNat < 128),
    headByte_between_iff (by decide : '1'.toNat < 128) (by decide : '9'.toNat < 128)]
  by_cases hdigit : '1' ≤ d ∧ d ≤ '9'
  · -- a digit is one byte, and the character after it is read the same way
    have hascii := toNat_lt_of_le_nine hdigit.2
    simp only [hdigit, and_self, if_true, hds hascii, List.nil_append, digit_headByte hascii]
    rcases more with _ | ⟨e, more⟩
    · rfl
    obtain ⟨es, he, -⟩ := utf8EncodeChar_eq_headByte_cons e
    rw [encode_cons, he, List.cons_append]
    simp only [headByte_between_iff (by decide : '0'.toNat < 128) (by decide : '9'.toNat < 128)]
    by_cases he9 : '0' ≤ e ∧ e ≤ '9'
    · simp only [he9, and_self, if_true, digit_headByte (toNat_lt_of_le_nine he9.2)]
    · simp only [he9, if_false]
  · simp only [hdigit, if_false]

/-- A placeholder reads the encoding of characters as it reads the characters. -/
theorem placeholderAt_encode (cs : List Char) : placeholderAt (encode cs) = placeholderIn cs := by
  rcases cs with _ | ⟨c, more⟩
  · rfl
  obtain ⟨bs, hc, hbs⟩ := utf8EncodeChar_eq_headByte_cons c
  rw [encode_cons, hc, List.cons_append, placeholderAt, placeholderIn]
  simp only [headByte_eq_toUInt8_iff (by decide : 'L'.toNat < 128)]
  by_cases hL : c = 'L'
  · -- `L` is one byte, and the body is read after it
    subst hL
    rw [if_pos rfl, if_pos rfl, hbs (by decide), List.nil_append, placeholderBody_encode]
  · rw [if_neg hL, if_neg hL, ← List.cons_append, ← hc, ← encode_cons, placeholderBody_encode]

/-! ## Boundaries and slices -/

/-- No byte of a character other than `%` is the byte of `%`. -/
theorem percent_not_mem_utf8EncodeChar {c : Char} (h : c ≠ '%') : '%'.toUInt8 ∉ String.utf8EncodeChar c := by
  by_cases hc : c.toNat < 128
  · rw [utf8EncodeChar_ascii hc, List.mem_singleton, ← headByte_of_ascii hc, eq_comm,
      headByte_eq_toUInt8_iff (by decide)]
    exact h
  · obtain ⟨b, bs, hb, hb192, hbs⟩ := utf8EncodeChar_wide (Nat.le_of_not_lt hc)
    rw [hb, List.mem_cons]
    rintro (hp | hp)
    · rw [← hp, toNat_toUInt8_of_lt (by decide)] at hb192
      exact absurd hb192 (by decide)
    · exact absurd (hbs _ hp) (by decide)

theorem length_encode_ascii {cs : List Char} (h : ∀ c ∈ cs, c.toNat < 128) : (encode cs).length = cs.length := by
  induction cs with
  | nil => rfl
  | cons c cs ih =>
    rw [encode_cons, utf8EncodeChar_ascii (h c List.mem_cons_self), List.singleton_append, List.length_cons,
      List.length_cons, ih fun x hx => h x (List.mem_cons_of_mem _ hx)]

theorem encode_eq_nil_iff {cs : List Char} : encode cs = [] ↔ cs = [] := by
  cases cs with
  | nil => simp
  | cons c cs => simp [encode_cons, String.utf8EncodeChar_ne_nil]

/-- Where the encoding of a prefix ends, the bytes lie on a character boundary. -/
theorem isCharBoundary_encode (a b : List Char) : isCharBoundary (encode (a ++ b)) (encode a).length = true := by
  unfold isCharBoundary
  split
  · rfl
  · cases b with
    | nil => simp
    | cons c rest =>
      obtain ⟨bs, hc, -⟩ := utf8EncodeChar_eq_headByte_cons c
      rw [encode_append, encode_cons, hc, List.getElem?_append_right (Nat.le_refl _), Nat.sub_self]
      simpa using headByte_starts c

theorem fromUTF8?_toByteArray (s : String) : String.fromUTF8? s.toByteArray = some s := by
  rw [String.fromUTF8?, dif_pos s.isValidUTF8]
  rfl

/-- Between the ends of the encodings of two prefixes, the slice is the text of the characters
between them. -/
theorem slice_encode (a b c : List Char) :
    slice (encode (a ++ b ++ c)) (encode a).length (encode (a ++ b)).length = some (String.ofList b) := by
  have h1 : isCharBoundary (encode (a ++ b ++ c)) (encode a).length = true := by
    simpa [List.append_assoc] using isCharBoundary_encode a (b ++ c)
  have h2 := isCharBoundary_encode (a ++ b) c
  rw [slice, if_pos ⟨by simp, h1, h2⟩]
  have hbytes : ((encode (a ++ b ++ c)).drop (encode a).length).take
      ((encode (a ++ b)).length - (encode a).length) = encode b := by
    simp [List.append_assoc]
  rw [hbytes, show (encode b).toByteArray = (String.ofList b).toByteArray by
    rw [String.toByteArray_ofList]; rfl, fromUTF8?_toByteArray]


/-! ## The loop -/

/-- The cut of a placeholder that stands for a count or an argument number. -/
def Cut.ofSlot : Option Nat → Nat → Nat → Cut
  | some k, a, b => .arg k a b
  | none, a, b => .count a b

section Loop

variable {bytes rest : List UInt8} {start index : Nat}

theorem cutsFrom_end (h : bytes.length ≤ index) :
    cutsFrom bytes start index = if start < bytes.length then [.literal start bytes.length] else [] := by
  rw [cutsFrom, if_neg (Nat.not_lt.2 h)]

/-- Where the bytes from `index` on start with `x`, the byte at `index` is `x` and the rest
follows. -/
theorem getElem?_of_drop_eq_cons {x : UInt8} (h : bytes.drop index = x :: rest) :
    bytes[index]? = some x ∧ bytes.drop (index + 1) = rest := by
  refine ⟨?_, ?_⟩
  · rw [← List.head?_drop, h]
    rfl
  · rw [← List.tail_drop, h]
    rfl

/-- Bytes other than that of `%` are passed over one by one. -/
theorem cutsFrom_skip {skipped : List UInt8} (h : bytes.drop index = skipped ++ rest)
    (hs : '%'.toUInt8 ∉ skipped) : cutsFrom bytes start index = cutsFrom bytes start (index + skipped.length) := by
  induction skipped generalizing index with
  | nil => rfl
  | cons x xs ih =>
    obtain ⟨hx, hnext⟩ := getElem?_of_drop_eq_cons h
    have hne : bytes[index]? ≠ some '%'.toUInt8 := by
      rw [hx]
      intro h'
      apply hs
      rw [← Option.some.inj h']
      exact List.mem_cons_self
    rw [cutsFrom, if_pos (List.getElem?_eq_some_iff.1 hx).1, if_pos hne,
      ih hnext (fun h' => hs (List.mem_cons_of_mem _ h')), List.length_cons, Nat.add_assoc, Nat.add_comm 1]

/-- A `%` that starts no placeholder is passed over. -/
theorem cutsFrom_percent_none (h : bytes.drop index = '%'.toUInt8 :: rest) (hp : placeholderAt rest = none) :
    cutsFrom bytes start index = cutsFrom bytes start (index + 1) := by
  obtain ⟨hx, hrest⟩ := getElem?_of_drop_eq_cons h
  rw [cutsFrom, if_pos (List.getElem?_eq_some_iff.1 hx).1, if_neg (by simp [hx]), hrest, hp]

/-- A `%` that starts a placeholder cuts the ordinary bytes before it, if any, and the
placeholder. -/
theorem cutsFrom_percent_some {slot : Option Nat} {taken : Nat} (h : bytes.drop index = '%'.toUInt8 :: rest)
    (hp : placeholderAt rest = some (slot, taken)) :
    cutsFrom bytes start index =
      (if start < index then [Cut.literal start index] else []) ++
        Cut.ofSlot slot index (index + taken + 1) :: cutsFrom bytes (index + taken + 1) (index + taken + 1) := by
  obtain ⟨hx, hrest⟩ := getElem?_of_drop_eq_cons h
  rw [cutsFrom, if_pos (List.getElem?_eq_some_iff.1 hx).1, if_neg (by simp [hx]), hrest]
  simp only [hp]
  cases slot <;> rfl

end Loop

/-! ## Following the character pass -/

/-- Where a cut starts. -/
def Cut.start : Cut → Nat
  | .literal a _ | .count a _ | .arg _ a _ => a

/-- Where a cut stops. -/
def Cut.stop : Cut → Nat
  | .literal _ b | .count _ b | .arg _ _ b => b

/-- A cut starts and stops where the encodings of two prefixes of the characters end. -/
def Cut.Within (cs : List Char) (cut : Cut) : Prop :=
  ∃ a b c, cs = a ++ b ++ c ∧ cut.start = (encode a).length ∧ cut.stop = (encode (a ++ b)).length

theorem encode_percent (cs : List Char) : encode ('%' :: cs) = '%'.toUInt8 :: encode cs := by
  rw [encode_cons, utf8EncodeChar_ascii (by decide), List.singleton_append]

theorem drop_encode_append (a b : List Char) : (encode (a ++ b)).drop (encode a).length = encode b := by
  rw [encode_append, List.drop_left]

/-- A character moved from the rest to those pending: the characters are the same, and the
pending ones now end past its bytes. -/
theorem encode_pend (done pending more : List Char) (c : Char) :
    done ++ (c :: pending).reverse ++ more = done ++ pending.reverse ++ c :: more ∧
      (encode (done ++ (c :: pending).reverse)).length =
        (encode (done ++ pending.reverse)).length + (String.utf8EncodeChar c).length := by
  refine ⟨by simp, ?_⟩
  simp only [List.reverse_cons, encode_append, List.length_append, encode_cons, encode_nil, List.append_nil]
  omega

theorem length_encode_lt_iff (a b : List Char) : (encode a).length < (encode (a ++ b)).length ↔ b ≠ [] := by
  rw [encode_append, List.length_append, Nat.lt_add_right_iff_pos, List.length_pos_iff, Ne, Ne,
    encode_eq_nil_iff]

theorem flushLiteral_eq_append (pending : List Char) (rest : List Token) :
    flushLiteral pending rest = flushLiteral pending [] ++ rest := by
  unfold flushLiteral
  split <;> rfl

/-- The characters pending when the loop cuts: one literal cut, when there are any, whose token is
what flushing them gives. -/
theorem pending_cut (done pending rest : List Char) :
    ((if (encode done).length < (encode (done ++ pending.reverse)).length then
        [Cut.literal (encode done).length (encode (done ++ pending.reverse)).length] else []).map
        (Cut.token (encode (done ++ pending.reverse ++ rest))) = flushLiteral pending []) ∧
    ∀ cut ∈ (if (encode done).length < (encode (done ++ pending.reverse)).length then
        [Cut.literal (encode done).length (encode (done ++ pending.reverse)).length] else []),
      cut.Within (done ++ pending.reverse ++ rest) := by
  by_cases hp : pending = []
  · subst hp
    simp [flushLiteral]
  · have hlt := (length_encode_lt_iff done pending.reverse).2 (by simpa using hp)
    rw [if_pos hlt]
    refine ⟨?_, ?_⟩
    · rw [List.map_singleton, Cut.token, slice_encode]
      simp [flushLiteral, hp]
    · intro cut hcut
      rw [List.mem_singleton] at hcut
      subst hcut
      exact ⟨done, pending.reverse, rest, rfl, rfl, rfl⟩

/-- The byte loop, started where the characters cut and those pending end, cuts what the
character pass cuts, at the encodings of prefixes of the characters. -/
theorem cutsFrom_follows_scan (done pending cs : List Char) :
    (cutsFrom (encode (done ++ pending.reverse ++ cs)) (encode done).length
        (encode (done ++ pending.reverse)).length).map (Cut.token (encode (done ++ pending.reverse ++ cs))) =
      scan pending cs ∧
    ∀ cut ∈ cutsFrom (encode (done ++ pending.reverse ++ cs)) (encode done).length
        (encode (done ++ pending.reverse)).length, cut.Within (done ++ pending.reverse ++ cs) := by
  induction pending, cs using scan.induct generalizing done with
  | case1 pending =>
    -- at the end of the bytes, the pending characters make the last cut
    rw [List.append_nil, cutsFrom_end (Nat.le_refl _), scan]
    simpa using pending_cut done pending []
  | case2 pending more slot taken hplace ih =>
    -- the placeholder takes `taken` ASCII characters, one byte each
    obtain ⟨htakeLen, hascii⟩ := placeholderIn_ascii hplace
    have hT : (encode (more.take taken)).length = taken := by rw [length_encode_ascii hascii, htakeLen]
    have hsplit : done ++ pending.reverse ++ '%' :: more =
        done ++ pending.reverse ++ '%' :: more.take taken ++ more.drop taken := by
      simp
    have hnext : (encode (done ++ pending.reverse ++ '%' :: more.take taken)).length =
        (encode (done ++ pending.reverse)).length + taken + 1 := by
      simp only [encode_append, encode_percent, List.length_append, List.length_cons, hT]
      omega
    have hdrop : (encode (done ++ pending.reverse ++ '%' :: more)).drop (encode (done ++ pending.reverse)).length =
        '%'.toUInt8 :: encode more := by
      rw [drop_encode_append, encode_percent]
    have hp : placeholderAt (encode more) = some (slot, taken) := (placeholderAt_encode more).trans hplace
    have hslice := slice_encode (done ++ pending.reverse) ('%' :: more.take taken) (more.drop taken)
    rw [← hsplit, hnext] at hslice
    obtain ⟨ihtok, ihwithin⟩ := ih (done ++ pending.reverse ++ '%' :: more.take taken)
    simp only [List.reverse_nil, List.append_nil] at ihtok ihwithin
    rw [← hsplit, hnext] at ihtok ihwithin
    obtain ⟨hlit, hlitWithin⟩ := pending_cut done pending ('%' :: more)
    rw [cutsFrom_percent_some hdrop hp]
    refine ⟨?_, ?_⟩
    · rw [List.map_append, hlit, List.map_cons, ihtok, scan, if_pos rfl]
      simp only [hplace]
      rw [flushLiteral_eq_append pending (_ :: _)]
      cases slot <;> simp only [Cut.ofSlot, Cut.token, hslice, Option.getD_some]
    · intro cut hcut
      rcases List.mem_append.1 hcut with h | h
      · exact hlitWithin cut h
      rcases List.mem_cons.1 h with rfl | h
      · refine ⟨done ++ pending.reverse, '%' :: more.take taken, more.drop taken, hsplit.trans (by simp), ?_, ?_⟩
        · cases slot <;> rfl
        · rw [hnext]
          cases slot <;> rfl
      · exact ihwithin cut h
  | case3 pending more hnone ih =>
    -- a `%` that starts no placeholder is an ordinary character
    have hp : placeholderAt (encode more) = none := (placeholderAt_encode more).trans hnone
    obtain ⟨hsame, hpos⟩ := encode_pend done pending more '%'
    obtain ⟨ihtok, ihwithin⟩ := ih done
    rw [hsame, hpos] at ihtok ihwithin
    rw [cutsFrom_percent_none (by rw [drop_encode_append, encode_percent]) hp, scan, if_pos rfl]
    simp only [hnone]
    exact ⟨ihtok, ihwithin⟩
  | case4 pending d more hd ih =>
    -- the bytes of any other character are skipped one by one
    obtain ⟨hsame, hpos⟩ := encode_pend done pending more d
    obtain ⟨ihtok, ihwithin⟩ := ih done
    rw [hsame, hpos] at ihtok ihwithin
    rw [cutsFrom_skip (by rw [drop_encode_append, encode_cons]) (percent_not_mem_utf8EncodeChar hd), scan,
      if_neg hd]
    exact ⟨ihtok, ihwithin⟩

/-- A cut between the ends of the encodings of two prefixes lies on character boundaries, and its
slice is some text. -/
theorem Cut.Within.on_boundaries {cs : List Char} {cut : Cut} (h : cut.Within cs) :
    cut.start ≤ cut.stop ∧ isCharBoundary (encode cs) cut.start = true ∧
      isCharBoundary (encode cs) cut.stop = true ∧ (slice (encode cs) cut.start cut.stop).isSome := by
  obtain ⟨a, b, c, rfl, hstart, hstop⟩ := h
  rw [hstart, hstop]
  refine ⟨by simp, by simpa [List.append_assoc] using isCharBoundary_encode a (b ++ c),
    isCharBoundary_encode (a ++ b) c, by rw [slice_encode]; rfl⟩

/-- Tokenizing a text's bytes gives the tokens of the pass over its characters. -/
theorem tokenize_eq_scan (text : String) : tokenize text = scan [] text.toList := by
  have h := (cutsFrom_follows_scan [] [] text.toList).1
  simpa [tokenize, bytesOf_eq_encode] using h

/-- Every cut of a text starts and stops on character boundaries, so no slice falls back to the
empty text. -/
theorem cutsFrom_on_boundaries (text : String) :
    ∀ cut ∈ cutsFrom (bytesOf text) 0 0, cut.start ≤ cut.stop ∧
      isCharBoundary (bytesOf text) cut.start = true ∧ isCharBoundary (bytesOf text) cut.stop = true ∧
        (slice (bytesOf text) cut.start cut.stop).isSome := by
  intro cut hcut
  rw [bytesOf_eq_encode] at hcut ⊢
  have h := (cutsFrom_follows_scan [] [] text.toList).2
  simp only [List.reverse_nil, List.append_nil, List.nil_append, encode_nil, List.length_nil] at h
  exact (h cut hcut).on_boundaries

end Phrasebook.Template
