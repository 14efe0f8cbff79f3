import Mathlib.Data.Finset.Card
import Phrasebook.Proofs.Template.Bytes

/-! # Filling placeholders by rank

Substitution fills a text in one pass over its tokens. A literal is copied, a count placeholder
becomes the count in decimal when there is one, and an argument placeholder with number `k`
takes the argument whose index is the rank of `k`: how many distinct argument numbers of the
text are smaller than `k`. A placeholder without a value stays as written
(`substitute_eq_join_fill`).
So what is inserted is never read again, a number used twice gets one value, gaps in the
numbering do not matter, and arguments beyond the distinct numbers are never read
(`substitute_take_numbers`).

The code ranks through the ascending list `numbersOf`, built by inserting numbers one at a time,
and the position of `k` in it. That list is ascending and holds exactly the numbers of the
tokens (`numbersOf_ascending`, `mem_numbersOf`), so the position of `k` counts the numbers below
it (`idxOf?_of_ascending`). A text whose tokens are all literals is returned as it stands;
the tokens spell out the text (`tokenize_written`), so that is also what the one pass gives.
-/

namespace Phrasebook.Template

/-- A token as it stands in the text. -/
def Token.written : Token → String
  | .literal text => text
  | .count raw => raw
  | .arg _ raw => raw

/-- The number of an argument placeholder. -/
def Token.number? : Token → Option Nat
  | .arg k _ => some k
  | _ => none

/-- The rank of an argument number among tokens: how many distinct argument numbers of the tokens
are smaller. -/
def rankIn (tokens : List Token) (k : Nat) : Nat :=
  {j ∈ (tokens.filterMap Token.number?).toFinset | j < k}.card

/-- A token filled in with a count, and with the argument that `rank` selects for each argument
number; a placeholder without a value stays as written. -/
def Token.fill (rank : Nat → Nat) (count : Option Int) (args : List String) : Token → String
  | .literal text => text
  | .count raw =>
    match count with
    | some n => toString n
    | none => raw
  | .arg k raw => if h : rank k < args.length then args[rank k] else raw

/-! ## The tokens spell out the text -/

theorem flushLiteral_written (pending : List Char) (rest : List Token) :
    (flushLiteral pending rest).flatMap (·.written.toList) =
      pending.reverse ++ rest.flatMap (·.written.toList) := by
  unfold flushLiteral
  split
  · rename_i h
    simp [List.isEmpty_iff.1 h]
  · simp [Token.written]

theorem scan_written (pending cs : List Char) :
    (scan pending cs).flatMap (·.written.toList) = pending.reverse ++ cs := by
  fun_induction scan pending cs with
  | case1 pending => simp [flushLiteral_written]
  | case2 pending rest slot taken hplace raw token ih =>
    -- a placeholder is written as `%` and the characters it takes
    have hw : token.written.toList = '%' :: rest.take taken := by
      cases slot <;> simp [token, raw, Token.written]
    rw [flushLiteral_written, List.flatMap_cons, ih, hw]
    simp
  | case3 pending rest _ ih => simp [ih]
  | case4 pending c rest _ ih => simp [ih]

/-- Joined again, the tokens of a text are the text. -/
theorem tokenize_written (text : String) :
    String.join ((tokenize text).map Token.written) = text := by
  apply String.toList_injective
  rw [String.toList_join, List.flatMap_map, tokenize_eq_scan, scan_written]
  rfl

/-! ## The ascending list of numbers -/

theorem mem_insertNumber {k x : Nat} {l : List Nat} :
    x ∈ insertNumber k l ↔ x = k ∨ x ∈ l := by
  induction l with
  | nil => simp [insertNumber]
  | cons m ms ih =>
    unfold insertNumber
    split
    · simp
    · split
      · rename_i hkm
        subst hkm
        simp
      · simp only [List.mem_cons, ih]
        tauto

theorem insertNumber_ascending (k : Nat) {l : List Nat} (h : l.Pairwise (· < ·)) :
    (insertNumber k l).Pairwise (· < ·) := by
  induction l with
  | nil => simp [insertNumber]
  | cons m ms ih =>
    rw [List.pairwise_cons] at h
    unfold insertNumber
    split
    · rename_i hkm
      exact List.pairwise_cons.2 ⟨fun x hx => by
        rcases List.mem_cons.1 hx with rfl | hx
        · exact hkm
        · exact Nat.lt_trans hkm (h.1 x hx), List.pairwise_cons.2 h⟩
    · split
      · exact List.pairwise_cons.2 h
      · rename_i hkm hne
        -- `k` goes after `m`, which stays below everything
        refine List.pairwise_cons.2 ⟨fun x hx => ?_, ih h.2⟩
        rcases mem_insertNumber.1 hx with rfl | hx
        · omega
        · exact h.1 x hx

theorem numbersOf_append_singleton (tokens : List Token) (tok : Token) :
    numbersOf (tokens ++ [tok]) =
      match tok.number? with
      | some k => insertNumber k (numbersOf tokens)
      | none => numbersOf tokens := by
  cases tok <;> simp [numbersOf, Token.number?]

/-- The numbers of the tokens, ascending. -/
theorem numbersOf_ascending (tokens : List Token) : (numbersOf tokens).Pairwise (· < ·) := by
  induction tokens using List.reverseRecOn with
  | nil => simp [numbersOf]
  | append_singleton tokens tok ih =>
    rw [numbersOf_append_singleton]
    split
    · exact insertNumber_ascending _ ih
    · exact ih

theorem mem_numbersOf {tokens : List Token} {k : Nat} :
    k ∈ numbersOf tokens ↔ k ∈ tokens.filterMap Token.number? := by
  induction tokens using List.reverseRecOn with
  | nil => simp [numbersOf]
  | append_singleton tokens tok ih =>
    rw [numbersOf_append_singleton, List.filterMap_append, List.mem_append, ← ih]
    split
    · rename_i j hj
      simp [mem_insertNumber, hj, or_comm]
    · rename_i hj
      simp [hj]

/-- In an ascending list, a member's position is the count of the members below it. -/
theorem idxOf?_of_ascending {l : List Nat} (h : l.Pairwise (· < ·)) {k : Nat} (hk : k ∈ l) :
    l.idxOf? k = some (l.countP (· < k)) := by
  induction l with
  | nil => simp at hk
  | cons m ms ih =>
    rw [List.pairwise_cons] at h
    rw [List.idxOf?_cons]
    by_cases hmk : m = k
    · -- `k` heads the list and everything after it is larger
      subst hmk
      have hnone : ms.countP (· < m) = 0 :=
        List.countP_eq_zero.2 fun x hx => by simpa using Nat.le_of_lt (h.1 x hx)
      simp [hnone]
    · have hk' : k ∈ ms := (List.mem_cons.1 hk).resolve_left (Ne.symm hmk)
      have hlt : m < k := h.1 k hk'
      simp [hmk, ih h.2 hk', hlt]

/-- The position of an argument number among the ascending numbers is its rank. -/
theorem countP_numbersOf (tokens : List Token) (k : Nat) :
    (numbersOf tokens).countP (· < k) = rankIn tokens k := by
  have hnodup : (numbersOf tokens).Nodup := (numbersOf_ascending tokens).imp Nat.ne_of_lt
  have hset : (numbersOf tokens).toFinset = (tokens.filterMap Token.number?).toFinset := by
    ext j
    simp [mem_numbersOf]
  rw [rankIn, ← hset, List.countP_eq_length_filter,
    ← List.toFinset_card_of_nodup (hnodup.filter _), List.toFinset_filter]
  simp

theorem idxOf?_numbersOf {tokens : List Token} {k : Nat} {raw : String}
    (hk : Token.arg k raw ∈ tokens) :
    (numbersOf tokens).idxOf? k = some (rankIn tokens k) := by
  have hmem : k ∈ numbersOf tokens :=
    mem_numbersOf.2 (List.mem_filterMap.2 ⟨_, hk, rfl⟩)
  rw [idxOf?_of_ascending (numbersOf_ascending tokens) hmem, countP_numbersOf]

/-! ## Substitution -/

theorem substitute_eq_join_fill (text : String) (count : Option Int) (args : List String) :
    substitute text count args =
      String.join ((tokenize text).map (Token.fill (rankIn (tokenize text)) count args)) := by
  unfold substitute
  dsimp only
  split
  · -- only literals: the text, which its literals spell out
    rename_i hall
    conv_lhs => rw [← tokenize_written text]
    congr 1
    refine List.map_congr_left fun tok htok => ?_
    have hlit := List.all_eq_true.1 hall tok htok
    cases tok with
    | literal t => rfl
    | count raw => simp at hlit
    | arg k raw => simp at hlit
  · congr 1
    refine List.map_congr_left fun tok htok => ?_
    cases tok with
    | literal t => rfl
    | count raw => cases count <;> rfl
    | arg k raw =>
      dsimp only
      rw [idxOf?_numbersOf htok]
      simp only [Option.bind_some, Token.fill]
      split
      · rename_i hlt
        simp [hlt]
      · rename_i hge
        simp [List.getElem?_eq_none (Nat.le_of_not_lt hge)]

example : substitute "%2 of %5" none ["a", "b"] = "a of b" := by decide +kernel

example : substitute "%10-%1" none ["one", "ten"] = "ten-one" := by decide +kernel

/-- The rank of an argument number of the text is below the number of distinct ones. -/
theorem rankIn_lt {tokens : List Token} {k : Nat} {raw : String} (hk : Token.arg k raw ∈ tokens) :
    rankIn tokens k < (numbersOf tokens).length := by
  have hmem : k ∈ numbersOf tokens :=
    mem_numbersOf.2 (List.mem_filterMap.2 ⟨_, hk, rfl⟩)
  rw [← countP_numbersOf, List.countP_eq_length_filter]
  apply List.length_filter_lt_length_iff_exists.2
  exact ⟨k, hmem, by simp⟩

/-- Arguments beyond the distinct argument numbers of the text are never read. -/
theorem substitute_take_numbers (text : String) (count : Option Int) (args : List String) :
    substitute text count (args.take (numbers text).length) = substitute text count args := by
  rw [substitute_eq_join_fill, substitute_eq_join_fill]
  congr 1
  refine List.map_congr_left fun tok htok => ?_
  cases tok with
  | literal t => rfl
  | count raw => rfl
  | arg k raw =>
    have hrank : rankIn (tokenize text) k < (numbers text).length := rankIn_lt htok
    simp only [Token.fill, List.length_take, List.getElem_take]
    by_cases hlt : rankIn (tokenize text) k < args.length
    · rw [dif_pos (Nat.lt_min.2 ⟨hrank, hlt⟩), dif_pos hlt]
    · rw [dif_neg (fun h => hlt (Nat.lt_of_lt_of_le h (Nat.min_le_right _ _))), dif_neg hlt]

/-- Substitution fills each token of the text in turn: a count placeholder with the count in
decimal, an argument placeholder with the argument at its number's rank among the text's distinct
argument numbers, and any placeholder without a value as it is written; a text of literals only
comes back as it stands, which is what filling its tokens gives too. Arguments beyond the
distinct argument numbers are never read. -/
theorem substitute_by_rank (text : String) (count : Option Int) (args : List String) :
    substitute text count args =
      String.join ((tokenize text).map (Token.fill (rankIn (tokenize text)) count args)) ∧
    substitute text count (args.take (numbers text).length) = substitute text count args :=
  ⟨substitute_eq_join_fill text count args, substitute_take_numbers text count args⟩

end Phrasebook.Template
