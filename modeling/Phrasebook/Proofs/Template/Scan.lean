import Mathlib.Data.List.Basic
import Phrasebook.Template.Placeholder

/-! # Tokenizing, read over characters

Tokenizing walks the bytes of a text, but what it does is clearer over the characters: ordinary
characters gather into a pending literal, which is flushed as one token just before a
placeholder and at the end (`scan`). The placeholder after a `%` is read over characters the way
the bytes are read (`placeholderIn`): an optional `L`, then `n`, or a digit from 1 to 9 and at
most one more digit.

What a placeholder takes is fixed by that reading: `L` or nothing, then `n`
(`placeholderIn_count`), or the number's decimal (`placeholderIn_arg`). Every character it takes
is ASCII, so it takes as many bytes as characters (`placeholderIn_ascii`).
-/

namespace Phrasebook.Template

/-! ## The pass over characters -/

/-- The value of a decimal digit character. -/
def digitOf (c : Char) : Nat := c.toNat - '0'.toNat

/-- The rest of a placeholder after the optional `L`, which `lead` counts, read over characters. -/
def bodyIn (lead : Nat) : List Char → Option (Option Nat × Nat)
  | [] => none
  | d :: more =>
    if d = 'n' then some (none, lead + 1)
    else if '1' ≤ d ∧ d ≤ '9' then
      match more with
      | e :: _ =>
        if '0' ≤ e ∧ e ≤ '9' then some (some (digitOf d * 10 + digitOf e), lead + 2)
        else some (some (digitOf d), lead + 1)
      | [] => some (some (digitOf d), lead + 1)
    else none

/-- The placeholder in the characters right after a `%`: what it stands for and how many
characters it takes. -/
def placeholderIn : List Char → Option (Option Nat × Nat)
  | c :: rest => if c = 'L' then bodyIn 1 rest else bodyIn 0 (c :: rest)
  | [] => bodyIn 0 []

/-- Ends a run of ordinary characters (kept reversed) before the next token. -/
def flushLiteral (pending : List Char) (rest : List Token) : List Token :=
  if pending.isEmpty then rest else .literal (String.ofList pending.reverse) :: rest

/-- Cuts characters into tokens; `pending` holds the ordinary characters read so far, reversed. -/
def scan (pending : List Char) : List Char → List Token
  | [] => flushLiteral pending []
  | c :: rest =>
    if c = '%' then
      match placeholderIn rest with
      | some (slot, taken) =>
        let raw := String.ofList ('%' :: rest.take taken)
        let token := match slot with
          | some k => Token.arg k raw
          | none => Token.count raw
        flushLiteral pending (token :: scan [] (rest.drop taken))
      | none => scan (c :: pending) rest
    else scan (c :: pending) rest
termination_by s => s.length
decreasing_by all_goals (simp; try omega)

/-! ## Digits -/

theorem digitOf_lt_ten {c : Char} (h9 : c ≤ '9') : digitOf c < 10 := by
  have hhi : c.toNat ≤ 57 := h9
  show c.toNat - 48 < 10
  omega

theorem digitChar_digitOf {c : Char} (h0 : '0' ≤ c) (h9 : c ≤ '9') : (digitOf c).digitChar = c := by
  have hlo : 48 ≤ c.toNat := h0
  apply Char.toNat_inj.mp
  rw [Nat.toNat_digitChar_of_lt_ten (digitOf_lt_ten h9)]
  show 48 + (c.toNat - 48) = c.toNat
  omega

theorem digitOf_pos {c : Char} (h1 : '1' ≤ c) : 0 < digitOf c := by
  have hlo : 49 ≤ c.toNat := h1
  show 0 < c.toNat - 48
  omega

/-- A digit from `1` to `9` is the decimal of its value. -/
theorem toString_digitOf {d : Char} (h1 : '1' ≤ d) (h9 : d ≤ '9') :
    (toString (digitOf d)).toList = [d] := by
  rw [Nat.toString_eq_repr, Nat.toList_repr, Nat.toDigits_of_lt_base (digitOf_lt_ten h9),
    digitChar_digitOf (Char.le_trans (by decide) h1) h9]

/-- Two digits, the first from `1` to `9`, are the decimal of their value. -/
theorem toString_two_digits {d e : Char} (h1 : '1' ≤ d) (h9 : d ≤ '9') (he0 : '0' ≤ e)
    (he9 : e ≤ '9') : (toString (digitOf d * 10 + digitOf e)).toList = [d, e] := by
  have hd := digitOf_pos h1
  have hd9 := digitOf_lt_ten h9
  have he := digitOf_lt_ten he9
  rw [Nat.toString_eq_repr, Nat.toList_repr, Nat.toDigits_of_base_le (by omega) (by omega),
    show (digitOf d * 10 + digitOf e) / 10 = digitOf d by omega,
    show (digitOf d * 10 + digitOf e) % 10 = digitOf e by omega,
    Nat.toDigits_of_lt_base hd9, digitChar_digitOf (Char.le_trans (by decide) h1) h9,
    digitChar_digitOf he0 he9]
  rfl

/-- Characters that start with a number's decimal give it back when as many are taken. -/
theorem take_decimal {k : Nat} {ds : List Char} (hk : (toString k).toList = ds) (rest : List Char) :
    (toString k).length = ds.length ∧ (ds ++ rest).take (toString k).length = (toString k).toList := by
  rw [← String.length_toList, hk]
  exact ⟨rfl, List.take_left⟩

/-! ## What a placeholder takes -/

section Takes

variable {lead k taken : Nat} {rest : List Char}

/-- A count placeholder's body is `n`. -/
theorem bodyIn_count (h : bodyIn lead rest = some (none, taken)) :
    taken = lead + 1 ∧ rest.take 1 = ['n'] := by
  unfold bodyIn at h
  split at h
  · simp at h
  · rename_i d more
    split at h
    · rename_i hd
      simp only [Option.some.injEq, Prod.mk.injEq, true_and] at h
      simp [h, hd]
    · -- a digit gives an argument placeholder, anything else none
      split at h
      · split at h
        · split at h <;> simp at h
        · simp at h
      · simp at h

/-- An argument placeholder's body is its number in decimal, from 1 to 99. -/
theorem bodyIn_arg (h : bodyIn lead rest = some (some k, taken)) :
    1 ≤ k ∧ k ≤ 99 ∧ taken = lead + (toString k).length ∧ rest.take (toString k).length = (toString k).toList := by
  unfold bodyIn at h
  split at h
  · simp at h
  · rename_i d more
    split at h
    · simp at h
    · split at h
      · rename_i hd
        have hd0 := digitOf_pos hd.1
        have hd9 := digitOf_lt_ten hd.2
        split at h
        · -- a second character: a digit makes the number two digits long
          rename_i e tail
          split at h
          · rename_i he
            simp only [Option.some.injEq, Prod.mk.injEq] at h
            obtain ⟨rfl, rfl⟩ := h
            have he9 := digitOf_lt_ten he.2
            obtain ⟨hlen, htake⟩ := take_decimal (toString_two_digits hd.1 hd.2 he.1 he.2) tail
            exact ⟨by omega, by omega, by rw [hlen]; rfl, htake⟩
          · simp only [Option.some.injEq, Prod.mk.injEq] at h
            obtain ⟨rfl, rfl⟩ := h
            obtain ⟨hlen, htake⟩ := take_decimal (toString_digitOf hd.1 hd.2) (e :: tail)
            exact ⟨by omega, by omega, by rw [hlen]; rfl, htake⟩
        · simp only [Option.some.injEq, Prod.mk.injEq] at h
          obtain ⟨rfl, rfl⟩ := h
          obtain ⟨hlen, htake⟩ := take_decimal (toString_digitOf hd.1 hd.2) []
          exact ⟨by omega, by omega, by rw [hlen]; rfl, htake⟩
      · simp at h

/-- The optional `L`: the body is read after it, or from the first character. -/
theorem placeholderIn_lead (h : placeholderIn rest = some (slot, taken)) :
    ∃ lead ≤ 1, rest = List.replicate lead 'L' ++ rest.drop lead ∧ bodyIn lead (rest.drop lead) = some (slot, taken) := by
  cases rest with
  | nil => exact ⟨0, Nat.zero_le _, rfl, h⟩
  | cons c more =>
    rw [placeholderIn] at h
    split at h
    · rename_i hc
      subst hc
      exact ⟨1, Nat.le_refl 1, rfl, h⟩
    · exact ⟨0, Nat.zero_le _, rfl, h⟩

/-- A count placeholder takes `n` or `Ln` after its `%`. -/
theorem placeholderIn_count (h : placeholderIn rest = some (none, taken)) :
    ∃ lead ≤ 1, taken = lead + 1 ∧ rest.take taken = List.replicate lead 'L' ++ ['n'] := by
  obtain ⟨lead, hle, hrest, hbody⟩ := placeholderIn_lead h
  obtain ⟨rfl, htake⟩ := bodyIn_count hbody
  refine ⟨lead, hle, rfl, ?_⟩
  rw [hrest, List.take_append, List.length_replicate, List.take_of_length_le (by simp),
    Nat.add_sub_cancel_left, htake]

/-- An argument placeholder takes an optional `L` and its number in decimal, from 1 to 99. -/
theorem placeholderIn_arg (h : placeholderIn rest = some (some k, taken)) :
    1 ≤ k ∧ k ≤ 99 ∧ ∃ lead ≤ 1, taken = lead + (toString k).length ∧
      rest.take taken = List.replicate lead 'L' ++ (toString k).toList := by
  obtain ⟨lead, hle, hrest, hbody⟩ := placeholderIn_lead h
  obtain ⟨hk1, hk99, rfl, htake⟩ := bodyIn_arg hbody
  refine ⟨hk1, hk99, lead, hle, rfl, ?_⟩
  rw [hrest, List.take_append, List.length_replicate, List.take_of_length_le (by simp),
    Nat.add_sub_cancel_left, htake]

/-- A placeholder takes as many characters as it says, all of them ASCII. -/
theorem placeholderIn_ascii (h : placeholderIn rest = some (slot, taken)) :
    (rest.take taken).length = taken ∧ ∀ c ∈ rest.take taken, c.toNat < 128 := by
  have hL : 'L'.toNat < 128 := by decide
  cases slot with
  | none =>
    obtain ⟨lead, -, rfl, htake⟩ := placeholderIn_count h
    rw [htake]
    refine ⟨by simp, fun c hc => ?_⟩
    simp only [List.mem_append, List.mem_replicate, List.mem_singleton] at hc
    rcases hc with ⟨-, rfl⟩ | rfl <;> decide
  | some k =>
    obtain ⟨-, -, lead, -, rfl, htake⟩ := placeholderIn_arg h
    rw [htake]
    refine ⟨by rw [List.length_append, List.length_replicate, String.length_toList], fun c hc => ?_⟩
    simp only [List.mem_append, List.mem_replicate] at hc
    rcases hc with ⟨-, rfl⟩ | hc
    · exact hL
    · -- the decimal of a number is made of digits
      rw [Nat.toString_eq_repr, Nat.toList_repr] at hc
      have hdigit := Nat.isDigit_of_mem_toDigits (by omega) (by omega) hc
      simp only [Char.isDigit, Bool.and_eq_true, decide_eq_true_eq] at hdigit
      have h9 : c.toNat ≤ 57 := hdigit.2
      omega

end Takes

/-- A `%` with what follows it spelled out: `L` or not, then the rest. -/
theorem ofList_percent_lead {lead : Nat} (hle : lead ≤ 1) (s : String) :
    String.ofList ('%' :: (List.replicate lead 'L' ++ s.toList)) = "%" ++ s ∨
      String.ofList ('%' :: (List.replicate lead 'L' ++ s.toList)) = "%L" ++ s := by
  rcases Nat.le_one_iff_eq_zero_or_eq_one.1 hle with rfl | rfl
  · left
    apply String.toList_injective
    simp
  · right
    apply String.toList_injective
    simp

end Phrasebook.Template
