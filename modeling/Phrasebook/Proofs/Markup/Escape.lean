import Phrasebook.Markup.Escape

/-! # Escaped text reads back

Writing a text replaces the five special characters by entities and keeps every other
character; reading replaces each entity by its character again. So a written text holds none
of the characters that end character data or a quoted value, and unescaping it gives the text
back. A text without `&` unescapes to itself.
-/

namespace Phrasebook.Markup

/-- The characters that writing replaces by entities. -/
def special (c : Char) : Prop :=
  c = '<' ∨ c = '>' ∨ c = '&' ∨ c = apostrophe ∨ c = '"'

theorem escapeChar_of_not_special {c : Char} (h : ¬special c) : escapeChar c = String.singleton c := by
  simp only [special, not_or] at h
  simp [escapeChar, h.1, h.2.1, h.2.2.1, h.2.2.2.1, h.2.2.2.2]

theorem foldl_escape_toList (xs : List Char) (init : String) :
    (xs.foldl (fun acc c => acc ++ escapeChar c) init).toList =
      init.toList ++ xs.flatMap fun c => (escapeChar c).toList := by
  induction xs generalizing init with
  | nil => simp
  | cons c cs ih => simp [ih, String.toList_append]

theorem escape_toList (s : String) :
    (escape s).toList = s.toList.flatMap fun c => (escapeChar c).toList := by
  simp [escape, foldl_escape_toList]

/-- No written character ends character data or a quoted value. -/
theorem not_mem_escapeChar {x c : Char} (hx : x = '<' ∨ x = '>' ∨ x = apostrophe ∨ x = '"') :
    x ∉ (escapeChar c).toList := by
  by_cases hc : special c
  · rcases hc with rfl | rfl | rfl | rfl | rfl <;> rcases hx with rfl | rfl | rfl | rfl <;> decide
  · rw [escapeChar_of_not_special hc, String.toList_singleton, List.mem_singleton]
    rintro rfl
    exact hc (by rcases hx with h | h | h | h <;> simp [special, h])

theorem not_mem_escape {x : Char} (hx : x = '<' ∨ x = '>' ∨ x = apostrophe ∨ x = '"') (s : String) :
    x ∉ (escape s).toList := by
  rw [escape_toList, List.mem_flatMap]
  rintro ⟨c, -, hc⟩
  exact not_mem_escapeChar hx hc

theorem escapeChar_toList_ne_nil (c : Char) : (escapeChar c).toList ≠ [] := by
  unfold escapeChar
  repeat' split
  all_goals simp

theorem escape_eq_empty_iff (s : String) : escape s = "" ↔ s = "" := by
  constructor
  · intro h
    have hl := congrArg String.toList h
    rw [escape_toList, String.toList_empty, List.flatMap_eq_nil_iff] at hl
    apply String.toList_injective
    cases hs : s.toList with
    | nil => rfl
    | cons c cs => exact absurd (hl c (by simp [hs])) (escapeChar_toList_ne_nil c)
  · rintro rfl
    rfl

/-- Characters other than `&` are read as they stand. -/
theorem unescapeFrom_plain (total : Nat) (xs : List Char) (hx : '&' ∉ xs) (pos : Nat) (out : String) :
    unescapeFrom total xs pos none out = .ok (out ++ String.ofList xs) := by
  induction xs generalizing pos out with
  | nil => simp [unescapeFrom]
  | cons c cs ih =>
    have hc : c ≠ '&' := fun h => hx (h ▸ List.mem_cons_self)
    rw [unescapeFrom, if_neg hc, ih (fun h => hx (List.mem_cons_of_mem c h))]
    congr 1
    apply String.toList_injective
    simp [String.toList_append, String.toList_push]

theorem unescape_plain {xs : List Char} (hx : '&' ∉ xs) : unescape xs = .ok (String.ofList xs) := by
  simp [unescape, unescapeFrom_plain _ xs hx]

/-- The body of a reference is gathered, reversed, until its `;`. -/
theorem unescapeFrom_body (total : Nat) (body rest : List Char) (hb : ∀ x ∈ body, x ≠ ';' ∧ x ≠ '&')
    (pos start : Nat) (acc : List Char) (out : String) :
    ∃ pos', unescapeFrom total (body ++ rest) pos (some (start, acc)) out =
      unescapeFrom total rest pos' (some (start, body.reverse ++ acc)) out := by
  induction body generalizing pos acc with
  | nil => exact ⟨pos, rfl⟩
  | cons x xs ih =>
    obtain ⟨hsemi, hamp⟩ := hb x List.mem_cons_self
    obtain ⟨pos', h⟩ := ih (fun y hy => hb y (List.mem_cons_of_mem x hy)) (pos + x.utf8Size) (x :: acc)
    refine ⟨pos', ?_⟩
    rw [List.cons_append, unescapeFrom, if_neg hsemi, if_neg hamp, h]
    simp

/-- A reference that names a character is replaced by it. -/
theorem unescapeFrom_entity (total : Nat) (body : List Char) {c : Char}
    (hb : ∀ x ∈ body, x ≠ ';' ∧ x ≠ '&') (hc : ∀ a b, resolveReference a b body = .ok (String.singleton c))
    (rest : List Char) (pos : Nat) (out : String) :
    ∃ pos', unescapeFrom total ('&' :: body ++ ';' :: rest) pos none out =
      unescapeFrom total rest pos' none (out.push c) := by
  obtain ⟨pos', h⟩ := unescapeFrom_body total body (';' :: rest) hb (pos + '&'.utf8Size) pos [] out
  refine ⟨pos' + 1, ?_⟩
  rw [List.cons_append, unescapeFrom, if_pos rfl, h, unescapeFrom, if_pos rfl]
  simp only [List.append_nil, List.reverse_reverse, hc, String.push_eq_append]

/-- Each special character is written as a reference to itself. -/
theorem escapeChar_special {c : Char} (hc : special c) :
    ∃ body, (escapeChar c).toList = '&' :: body ++ [';'] ∧ (∀ x ∈ body, x ≠ ';' ∧ x ≠ '&') ∧
      ∀ a b, resolveReference a b body = .ok (String.singleton c) := by
  rcases hc with rfl | rfl | rfl | rfl | rfl
  · exact ⟨['l', 't'], by decide, by simp, fun _ _ => rfl⟩
  · exact ⟨['g', 't'], by decide, by simp, fun _ _ => rfl⟩
  · exact ⟨['a', 'm', 'p'], by decide, by simp, fun _ _ => rfl⟩
  · exact ⟨['a', 'p', 'o', 's'], by decide, by simp, fun _ _ => rfl⟩
  · exact ⟨['q', 'u', 'o', 't'], by decide, by simp, fun _ _ => rfl⟩

/-- The written form of one character is read back as that character. -/
theorem unescapeFrom_escapeChar (total : Nat) (c : Char) (rest : List Char) (pos : Nat) (out : String) :
    ∃ pos', unescapeFrom total ((escapeChar c).toList ++ rest) pos none out =
      unescapeFrom total rest pos' none (out.push c) := by
  by_cases hc : special c
  · obtain ⟨body, hw, hb, hr⟩ := escapeChar_special hc
    have hsplit : (escapeChar c).toList ++ rest = '&' :: body ++ ';' :: rest := by
      simp [hw]
    rw [hsplit]
    exact unescapeFrom_entity total body hb hr rest pos out
  · have hne : c ≠ '&' := fun h => hc (Or.inr (Or.inr (Or.inl h)))
    rw [escapeChar_of_not_special hc, String.toList_singleton, List.singleton_append]
    exact ⟨_, by rw [unescapeFrom, if_neg hne]⟩

theorem unescapeFrom_escaped (total : Nat) (xs : List Char) (pos : Nat) (out : String) :
    unescapeFrom total (xs.flatMap fun c => (escapeChar c).toList) pos none out =
      .ok (out ++ String.ofList xs) := by
  induction xs generalizing pos out with
  | nil => simp [unescapeFrom]
  | cons c cs ih =>
    obtain ⟨pos', h⟩ := unescapeFrom_escapeChar total c (cs.flatMap fun c => (escapeChar c).toList) pos out
    rw [List.flatMap_cons, h, ih]
    congr 1
    apply String.toList_injective
    simp [String.toList_append, String.toList_push]

/-- Unescaping the written form of a text gives the text. -/
theorem unescape_escape (s : String) : unescape (escape s).toList = .ok s := by
  rw [unescape, escape_toList, unescapeFrom_escaped]
  simp

end Phrasebook.Markup
