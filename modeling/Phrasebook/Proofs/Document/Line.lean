import Phrasebook.Document.Line

/-! # Written lines read back

The decimal digits of a number are read back as that number, as long as the number lies in the
range: every value the reader passes through on the way is a prefix of the digits, so none of
them leaves the range before the last does. An absolute line is written as its digits and an
offset with its sign, so reading a written line gives the line again, for every 32-bit value.

Main statement: `Line.render_faithful`, the written form is a faithful encoding. Its first
character tells an absolute line (a digit) from an offset (a sign), and a line read from any
text is written in a form that reads back as the same line.
-/

namespace Phrasebook

theorem digitValue_digitChar {d : Nat} (hd : d < 10) : digitValue 10 (Nat.digitChar d) = some d := by
  have : ∀ d : Fin 10, digitValue 10 (Nat.digitChar d) = some d := by decide
  exact this ⟨d, hd⟩

theorem accumulateUp_append (radix : Nat) (hi acc : Int) (xs ys : List Char) :
    accumulateUp radix hi acc (xs ++ ys) = accumulateUp radix hi acc xs >>= fun a => accumulateUp radix hi a ys := by
  induction xs generalizing acc with
  | nil => rfl
  | cons c cs ih =>
    simp only [List.cons_append, accumulateUp]
    split
    · rfl
    · split
      · rfl
      · exact ih _

theorem accumulateDown_append (radix : Nat) (lo acc : Int) (xs ys : List Char) :
    accumulateDown radix lo acc (xs ++ ys) = accumulateDown radix lo acc xs >>= fun a => accumulateDown radix lo a ys := by
  induction xs generalizing acc with
  | nil => rfl
  | cons c cs ih =>
    simp only [List.cons_append, accumulateDown]
    split
    · rfl
    · split
      · rfl
      · exact ih _

/-- The digits of a number at most `hi` add up to the number. -/
theorem accumulateUp_toDigits (hi : Int) (n : Nat) (hn : (n : Int) ≤ hi) :
    accumulateUp 10 hi 0 (Nat.toDigits 10 n) = .ok n := by
  induction n using Nat.strongRecOn with
  | ind n ih =>
    rw [Nat.toDigits_eq_if (by omega)]
    split
    · rename_i hlt
      simp only [accumulateUp, digitValue_digitChar hlt]
      rw [if_neg (by omega)]
      simp
    · rename_i hge
      have hdiv : n / 10 < n := Nat.div_lt_self (by omega) (by omega)
      rw [accumulateUp_append, ih (n / 10) hdiv (by omega)]
      simp only [bind, Except.bind, accumulateUp, digitValue_digitChar (Nat.mod_lt n (by omega))]
      have hsplit : ((n / 10 : Nat) : Int) * ((10 : Nat) : Int) + ((n % 10 : Nat) : Int) = n := by omega
      rw [hsplit, if_neg (by omega)]

/-- The digits of a number whose negation is at least `lo` subtract down to its negation. -/
theorem accumulateDown_toDigits (lo : Int) (n : Nat) (hn : lo ≤ -(n : Int)) :
    accumulateDown 10 lo 0 (Nat.toDigits 10 n) = .ok (-(n : Int)) := by
  induction n using Nat.strongRecOn with
  | ind n ih =>
    rw [Nat.toDigits_eq_if (by omega)]
    split
    · rename_i hlt
      simp only [accumulateDown, digitValue_digitChar hlt]
      rw [if_neg (by omega)]
      simp
    · rename_i hge
      have hdiv : n / 10 < n := Nat.div_lt_self (by omega) (by omega)
      rw [accumulateDown_append, ih (n / 10) hdiv (by omega)]
      simp only [bind, Except.bind, accumulateDown, digitValue_digitChar (Nat.mod_lt n (by omega))]
      have hsplit : -((n / 10 : Nat) : Int) * ((10 : Nat) : Int) - ((n % 10 : Nat) : Int) = -(n : Int) := by
        omega
      rw [hsplit, if_neg (by omega)]

theorem toDigits_head_digit (n : Nat) : ∃ c cs, Nat.toDigits 10 n = c :: cs ∧ c ≠ '+' ∧ c ≠ '-' := by
  obtain ⟨c, cs, h⟩ := List.exists_cons_of_ne_nil (Nat.toDigits_ne_nil (n := n) (b := 10))
  have hdigit : ∀ c ∈ Nat.toDigits 10 n, c.isDigit = true := fun c hc =>
    Nat.isDigit_of_mem_toDigits (by omega) (by omega) hc
  have hc := hdigit c (by simp [h])
  exact ⟨c, cs, h, fun e => by simp [e] at hc, fun e => by simp [e] at hc⟩

namespace IntegerRange

/-- The decimal form of a number in range reads back as that number. -/
theorem read_toString (r : IntegerRange) (n : Nat) (hn : (n : Int) ≤ r.hi) :
    r.read (toString n) = .ok n := by
  obtain ⟨c, cs, h, hplus, hminus⟩ := toDigits_head_digit n
  have hread := accumulateUp_toDigits r.hi n hn
  rw [read, readRadix, Nat.toString_eq_ofList_toDigits, String.toList_ofList, h]
  rw [h] at hread
  split
  · rename_i heq
    cases heq
  · rename_i heq
    exact absurd (List.cons.inj heq).1 hplus
  · rename_i heq
    exact absurd (List.cons.inj heq).1 hminus
  · rename_i _ heq
    exact absurd (List.cons.inj heq).1 hplus
  · rename_i _ heq
    exact absurd (List.cons.inj heq).1 hminus
  · exact hread

theorem readRadix_plus (r : IntegerRange) (radix : Nat) {s : String} {ds : List Char} (hds : ds ≠ [])
    (hs : s.toList = '+' :: ds) : r.readRadix radix s = accumulateUp radix r.hi 0 ds := by
  rw [readRadix, hs]
  split
  · rename_i heq
    cases heq
  · rename_i heq
    exact absurd (List.cons.inj heq).2 hds
  · rename_i heq
    cases heq
  · rename_i _ heq
    rw [(List.cons.inj heq).2]
  · rename_i _ heq
    cases heq
  · simp_all

theorem readRadix_minus (r : IntegerRange) (hr : r.signed = true) (radix : Nat) {s : String}
    {ds : List Char} (hds : ds ≠ []) (hs : s.toList = '-' :: ds) :
    r.readRadix radix s = accumulateDown radix r.lo 0 ds := by
  rw [readRadix, hs]
  split
  · rename_i heq
    cases heq
  · rename_i heq
    cases heq
  · rename_i heq
    exact absurd (List.cons.inj heq).2 hds
  · rename_i _ heq
    cases heq
  · rename_i _ heq
    rw [(List.cons.inj heq).2, if_pos hr]
  · simp_all

end IntegerRange

namespace Line

theorem toString_not_signed (n : Nat) :
    ((toString n).startsWith "+" || (toString n).startsWith "-") = false := by
  obtain ⟨c, cs, h, hplus, hminus⟩ := toDigits_head_digit n
  simp [String.startsWith_string_eq_false_iff, h, hplus.symm, hminus.symm]

theorem parse_render_absolute (n : UInt32) : parse (render (.absolute n)) = .ok (.absolute n) := by
  have hlt : n.toNat < 4294967296 := n.toNat_lt_size
  have hn : ((n.toNat : Nat) : Int) ≤ IntegerRange.word32.hi := by
    simp [IntegerRange.word32]
    omega
  rw [render, parse, toString_not_signed, if_neg Bool.false_ne_true, IntegerRange.read_toString _ _ hn]
  simp [Except.map]

theorem parse_render_relative (d : Int32) : parse (render (.relative d)) = .ok (.relative d) := by
  have hlo := d.le_toInt
  have hhi := d.toInt_lt
  rw [render]
  cases h : d.toInt with
  | ofNat m =>
    rw [Int.ofNat_eq_natCast] at h ⊢
    have hstr : toString (m : Int) = Nat.repr m := rfl
    have hs : ("+" ++ toString (m : Int)).toList = '+' :: Nat.toDigits 10 m := by
      simp [String.toList_append, hstr]
    have hsign : ("+" ++ toString (m : Int)).startsWith "+" = true :=
      String.startsWith_string_iff.2 (by rw [hs]; simp)
    have hread : IntegerRange.int32.read ("+" ++ toString (m : Int)) = .ok (m : Int) := by
      rw [IntegerRange.read, IntegerRange.readRadix_plus _ _ Nat.toDigits_ne_nil hs]
      exact accumulateUp_toDigits _ m (by simp [IntegerRange.int32]; omega)
    rw [if_pos (by omega), parse, if_pos (by rw [hsign, Bool.true_or]), hread, ← h]
    simp [Except.map]
  | negSucc m =>
    have hstr : toString (Int.negSucc m) = "-" ++ Nat.repr (m + 1) := rfl
    have hs : (toString (Int.negSucc m)).toList = '-' :: Nat.toDigits 10 (m + 1) := by
      simp [String.toList_append, hstr]
    have hsign : (toString (Int.negSucc m)).startsWith "-" = true :=
      String.startsWith_string_iff.2 (by rw [hs]; simp)
    rw [Int.negSucc_eq] at h
    have hread : IntegerRange.int32.read (toString (Int.negSucc m)) = .ok (Int.negSucc m) := by
      rw [IntegerRange.read, IntegerRange.readRadix_minus _ rfl _ Nat.toDigits_ne_nil hs,
        accumulateDown_toDigits _ (m + 1) (by simp [IntegerRange.int32]; omega)]
      rfl
    rw [if_neg (by rw [Int.negSucc_eq]; omega), parse, if_pos (by rw [hsign, Bool.or_true]), hread, Int.negSucc_eq, ← h]
    simp [Except.map]

/-- Reading a written line gives the line. -/
theorem parse_render (l : Line) : parse l.render = .ok l := by
  cases l with
  | absolute n => exact parse_render_absolute n
  | relative d => exact parse_render_relative d

/-- An absolute line is written as the decimal digits of its number. -/
theorem render_absolute_toList (n : UInt32) :
    (render (.absolute n)).toList = Nat.toDigits 10 n.toNat := by
  rw [render, Nat.toString_eq_ofList_toDigits, String.toList_ofList]

/-- An offset is written as its sign, `+` for zero or more, then the digits of its magnitude. -/
theorem render_relative_toList (d : Int32) :
    (render (.relative d)).toList =
      (if 0 ≤ d.toInt then '+' else '-') :: Nat.toDigits 10 d.toInt.natAbs := by
  rw [render]
  cases d.toInt with
  | ofNat m =>
    rw [Int.ofNat_eq_natCast]
    have hstr : toString (m : Int) = Nat.repr m := rfl
    simp [hstr, String.toList_append]
  | negSucc m =>
    have hstr : toString (Int.negSucc m) = "-" ++ Nat.repr (m + 1) := rfl
    have hneg : ¬ 0 ≤ Int.negSucc m := by omega
    simp [hstr, String.toList_append, hneg]

/-- The written form of a line is a faithful encoding of it. Every line reads back from its
written form; an absolute line is written in digits alone and an offset always with its sign,
`+0` for no offset, so no offset is written as an absolute line is; and a line read from any
text, `-0` included, is written in a form that reads back as that line. -/
theorem render_faithful :
    (∀ l : Line, parse l.render = .ok l) ∧
    (∀ n : UInt32, ∀ c ∈ (render (.absolute n)).toList, c.isDigit = true) ∧
    (∀ d : Int32, (render (.relative d)).toList.head? = some (if 0 ≤ d.toInt then '+' else '-')) ∧
    render (.relative 0) = "+0" ∧
    (∀ (n : UInt32) (d : Int32), render (.absolute n) ≠ render (.relative d)) ∧
    (∀ (s : String) (l : Line), parse s = .ok l → parse l.render = parse s) := by
  have hdigits (n : UInt32) : ∀ c ∈ (render (.absolute n)).toList, c.isDigit = true := by
    intro c hc
    rw [render_absolute_toList] at hc
    exact Nat.isDigit_of_mem_toDigits (by omega) (by omega) hc
  have hsign (d : Int32) :
      (render (.relative d)).toList.head? = some (if 0 ≤ d.toInt then '+' else '-') := by
    rw [render_relative_toList, List.head?_cons]
  refine ⟨parse_render, hdigits, hsign, by decide, ?_, ?_⟩
  · intro n d heq
    -- the first character of an offset is a sign, which no absolute line holds
    obtain ⟨c, hc⟩ : ∃ c, (render (.relative d)).toList.head? = some c ∧ c.isDigit = false := by
      refine ⟨_, hsign d, ?_⟩
      split <;> decide
    have hmem : c ∈ (render (.absolute n)).toList := by
      rw [heq]
      exact List.mem_of_head? hc.1
    simp [hdigits n c hmem] at hc
  · intro s l h
    rw [parse_render, h]

end Line

end Phrasebook
