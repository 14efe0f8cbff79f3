import Mathlib.Data.List.TakeWhile
import Phrasebook.Language.Code

/-! # Normal forms of language codes

Normalizing a code twice gives what normalizing it once gives (`Language.normalize_normalize`),
so a normalized code is its own normal form. It rests on lowercasing being idempotent
(`Text.lowercase_lowercase`): what the lowercase mapping gives is never mapped again, and is
neither the capital sigma nor the dotted capital I, the two characters that lowercasing treats
on their own.

That is a fact about the table of ranges. A range either shifts its code points by a constant or
maps every second one to the next, so what it maps to lies in an interval, with a fixed parity
for the second kind; a check over all pairs of ranges (`CaseRange.clearOf`) then shows that no
range maps a code point that another range, or the same one, gives.
-/

namespace Phrasebook.Text

namespace CaseRange

/-- The least code point the range can map to. -/
def imageLo (r : CaseRange) : Nat :=
  match r.shift with
  | .offset d => Int.toNat (r.lo + d)
  | .pairs => r.lo + 1

/-- The greatest code point the range can map to. -/
def imageHi (r : CaseRange) : Nat :=
  match r.shift with
  | .offset d => Int.toNat (r.hi + d)
  | .pairs => r.hi + 1

/-- No code point that `r` maps to is mapped by `r'`: the images of `r` lie outside `r'`, or
both pair their code points from starts of the same parity (so `r` gives odd offsets where
`r'` maps even ones), or `r` maps one code point to an odd offset of `r'`. -/
def clearOf (r r' : CaseRange) : Bool :=
  r.imageHi < r'.lo || r'.hi < r.imageLo ||
  match r.shift, r'.shift with
  | .pairs, .pairs => r.lo % 2 == r'.lo % 2
  | .offset _, .pairs => r.lo == r.hi && (r.imageLo - r'.lo) % 2 == 1
  | _, _ => false

theorem apply_bounds {r : CaseRange} {n m : Nat} (h : r.apply n = some m) :
    r.imageLo ≤ m ∧ m ≤ r.imageHi := by
  obtain ⟨lo, hi, s⟩ := r
  cases s <;> simp [apply, imageLo, imageHi] at h ⊢ <;> omega

theorem apply_eq_none_of_clearOf {r r' : CaseRange} (hc : r.clearOf r' = true) {n m : Nat}
    (h : r.apply n = some m) : r'.apply m = none := by
  -- the comparisons leave `decide` before the ranges are taken apart
  simp only [clearOf, Bool.or_eq_true, decide_eq_true_eq] at hc
  obtain ⟨lo, hi, s⟩ := r
  obtain ⟨lo', hi', s'⟩ := r'
  cases s <;> cases s' <;> simp [apply, imageLo, imageHi] at h hc ⊢ <;> omega

end CaseRange

/-- No range maps a code point that a range gives. -/
theorem lowerRanges_clear : lowerRanges.all (fun r => lowerRanges.all r.clearOf) = true := by
  decide +kernel

/-- No range gives the dotted capital I. -/
theorem lowerRanges_avoid_dotted :
    lowerRanges.all (fun r => r.imageHi < 0x130 || 0x130 < r.imageLo) = true := by
  decide +kernel

/-- What a range gives is mapped by no range. -/
theorem apply_image_unmapped {r : CaseRange} (hr : r ∈ lowerRanges) {n m : Nat}
    (h : r.apply n = some m) : lowerRanges.findSome? (·.apply m) = none := by
  refine List.findSome?_eq_none_iff.2 fun r' hr' => CaseRange.apply_eq_none_of_clearOf ?_ h
  exact List.all_eq_true.1 (List.all_eq_true.1 lowerRanges_clear r hr) r' hr'

theorem apply_image_ne_dotted {r : CaseRange} (hr : r ∈ lowerRanges) {n m : Nat}
    (h : r.apply n = some m) : m ≠ 0x130 := by
  have hb := CaseRange.apply_bounds h
  have havoid := List.all_eq_true.1 lowerRanges_avoid_dotted r hr
  simp only [Bool.or_eq_true, decide_eq_true_eq] at havoid
  omega

/-- `Char.ofNat n` is `n` itself, or `'\0'` when `n` is no character. -/
theorem toNat_ofNat_cases (n : Nat) : (Char.ofNat n).toNat = n ∨ (Char.ofNat n).toNat = 0 := by
  by_cases h : n.isValidChar
  · left
    rw [Char.ofNat, dif_pos h]
    rfl
  · right
    rw [Char.ofNat, dif_neg h]
    rfl

/-- A character that lowercasing keeps as it is, whatever stands around it. -/
def LowerFixed (c : Char) : Prop :=
  c.toNat ≠ 0x3A3 ∧ c.toNat ≠ 0x130 ∧ lowerChar c = c

instance : DecidablePred LowerFixed := fun c =>
  inferInstanceAs (Decidable (c.toNat ≠ 0x3A3 ∧ c.toNat ≠ 0x130 ∧ lowerChar c = c))

/-- What the simple lowercase mapping gives is kept, unless it was a sigma or a dotted I. -/
theorem lowerChar_fixed {c : Char} (h3A3 : c.toNat ≠ 0x3A3) (h130 : c.toNat ≠ 0x130) :
    LowerFixed (lowerChar c) := by
  cases hf : lowerRanges.findSome? (·.apply c.toNat) with
  | none =>
    have hc : lowerChar c = c := by simp only [lowerChar, hf]
    rw [hc]
    exact ⟨h3A3, h130, hc⟩
  | some m =>
    have hc : lowerChar c = Char.ofNat m := by simp only [lowerChar, hf]
    obtain ⟨r, hr, hrm⟩ := List.exists_of_findSome?_eq_some hf
    have hunmapped : lowerRanges.findSome? (·.apply (Char.ofNat m).toNat) = none := by
      rcases toNat_ofNat_cases m with hm | hm <;> rw [hm]
      · exact apply_image_unmapped hr hrm
      · decide +kernel
    have hsigma : lowerRanges.findSome? (·.apply 0x3A3) ≠ none := by decide +kernel
    rw [hc]
    refine ⟨fun h => hsigma (h ▸ hunmapped), fun h => ?_, by simp only [lowerChar, hunmapped]⟩
    rcases toNat_ofNat_cases m with hm | hm <;> rw [hm] at h
    · exact apply_image_ne_dotted hr hrm h
    · exact absurd h (by decide)

/-- Lowercasing characters that it keeps changes nothing. -/
theorem lowerFrom_of_fixed (before : List Char) {cs : List Char} (h : ∀ c ∈ cs, LowerFixed c) :
    lowerFrom before cs = cs := by
  induction cs generalizing before with
  | nil => rfl
  | cons c rest ih =>
    obtain ⟨h3A3, h130, hc⟩ := h c List.mem_cons_self
    simp only [lowerFrom, h3A3, h130, if_false, hc, List.singleton_append,
      ih _ fun x hx => h x (List.mem_cons_of_mem c hx)]

/-- Lowercasing gives only characters that it keeps. -/
theorem lowerFrom_fixed (before cs : List Char) : ∀ x ∈ lowerFrom before cs, LowerFixed x := by
  induction cs generalizing before with
  | nil => simp [lowerFrom]
  | cons c rest ih =>
    intro x hx
    simp only [lowerFrom, List.mem_append] at hx
    rcases hx with hx | hx
    · -- the small sigmas, `i` with its dot, or the simple mapping
      split at hx
      · split at hx <;> simp only [List.mem_singleton] at hx <;> subst hx <;> decide
      · rename_i h3A3
        split at hx
        · simp only [List.mem_cons, List.not_mem_nil, or_false] at hx
          rcases hx with rfl | rfl <;> decide
        · rename_i h130
          simp only [List.mem_singleton] at hx
          subst hx
          exact lowerChar_fixed h3A3 h130
    · exact ih _ x hx

theorem lowercase_lowercase (s : String) : lowercase (lowercase s) = lowercase s := by
  simp only [lowercase, String.toList_ofList]
  rw [lowerFrom_of_fixed [] (lowerFrom_fixed [] s.toList)]

end Phrasebook.Text

namespace Phrasebook.Language

theorem normalize_normalize (code : String) : normalize (normalize code) = normalize code := by
  let dash : Char → Char := fun c => if c = '-' then '_' else c
  have hdash : ∀ c, dash (dash c) = dash c := fun c => by
    by_cases h : c = '-' <;> simp [dash, h]
  -- the normal form holds only characters that lowercasing keeps
  have hfixed : ∀ c ∈ (Text.lowerFrom [] code.toList).map dash, Text.LowerFixed c := by
    intro c hc
    obtain ⟨x, hx, rfl⟩ := List.mem_map.1 hc
    have hx' := Text.lowerFrom_fixed [] code.toList x hx
    by_cases h : x = '-'
    · simp only [dash, h, if_true]
      decide
    · simpa [dash, h] using hx'
  have hlow : Text.lowercase (normalize code) = normalize code := by
    simp only [normalize, Text.lowercase, String.toList_ofList]
    exact congrArg String.ofList (Text.lowerFrom_of_fixed [] hfixed)
  show String.ofList ((Text.lowercase (normalize code)).toList.map dash) = normalize code
  rw [hlow]
  simp only [normalize, String.toList_ofList, List.map_map]
  exact congrArg String.ofList (List.map_congr_left fun c _ => hdash c)

theorem primary_primary (code : String) : primary (primary code) = primary code := by
  simp only [primary, String.toList_ofList, List.takeWhile_idem]

end Phrasebook.Language
