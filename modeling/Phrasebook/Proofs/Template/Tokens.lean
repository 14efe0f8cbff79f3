import Mathlib.Data.List.Chain
import Phrasebook.Proofs.Template.Substitution

/-! # The tokens of a text

Tokenizing cuts a text into pieces that spell it out again, in order and with nothing lost or
repeated (`tokenize_written`). Each piece has the shape its kind promises (`Token.Spelled`): a
literal is never empty, a count placeholder is written `%n` or `%Ln`, and an argument
placeholder carries a number from 1 to 99 and is written as `%`, perhaps `L`, and that number in
decimal. Two literals never stand side by side (`Token.Apart`): the ordinary characters between
two placeholders make one literal.

The tokens are those of the pass over the characters (`tokenize_eq_scan`), which collects
ordinary characters and flushes them as one literal just before a placeholder and at the end.
The shapes follow from what `placeholderIn` takes after a `%` (`placeholderIn_count`,
`placeholderIn_arg`), and the separation from the flush being the only source of literals. Every
slice the byte loop takes lies on character boundaries, so none falls back to the empty text.
So substituting nothing gives the text back, and every argument number of a text lies in 1..99
(`tokenize_partition`).
-/

namespace Phrasebook.Template

/-- Whether a token is a run of ordinary characters. -/
def Token.isLiteral : Token → Bool
  | .literal _ => true
  | _ => false

/-- The shape a token has in a text: a literal is not empty, a count placeholder is `%n` or
`%Ln`, and an argument placeholder numbers from 1 to 99 and is written as `%`, perhaps `L`, and
its number in decimal. -/
def Token.Spelled : Token → Prop
  | .literal text => text ≠ ""
  | .count raw => raw = "%n" ∨ raw = "%Ln"
  | .arg k raw => 1 ≤ k ∧ k ≤ 99 ∧ (raw = "%" ++ toString k ∨ raw = "%L" ++ toString k)

instance : DecidablePred Token.Spelled
  | .literal text => inferInstanceAs (Decidable (text ≠ ""))
  | .count raw => inferInstanceAs (Decidable (raw = "%n" ∨ raw = "%Ln"))
  | .arg k raw =>
    inferInstanceAs (Decidable (1 ≤ k ∧ k ≤ 99 ∧ (raw = "%" ++ toString k ∨ raw = "%L" ++ toString k)))

/-- Two neighbouring tokens are not both literals. -/
def Token.Apart (a b : Token) : Prop :=
  a.isLiteral = false ∨ b.isLiteral = false

/-! ## The pass over the characters -/

theorem mem_flushLiteral {pending : List Char} {rest : List Token} {tok : Token} :
    tok ∈ flushLiteral pending rest ↔
      (pending ≠ [] ∧ tok = .literal (String.ofList pending.reverse)) ∨ tok ∈ rest := by
  unfold flushLiteral
  split
  · rename_i h
    simp [List.isEmpty_iff.1 h]
  · rename_i h
    simp [List.isEmpty_iff.not.1 h]

/-- A flushed literal is never empty. -/
theorem literal_spelled {pending : List Char} (hne : pending ≠ []) :
    (Token.literal (String.ofList pending.reverse)).Spelled := by
  simpa [Token.Spelled, ← String.toList_inj] using hne

/-- A flush before a placeholder keeps literals apart. -/
theorem flushLiteral_apart (pending : List Char) {tok : Token} {rest : List Token}
    (htok : tok.isLiteral = false) (h : (tok :: rest).IsChain Token.Apart) :
    (flushLiteral pending (tok :: rest)).IsChain Token.Apart := by
  unfold flushLiteral
  split
  · exact h
  · exact List.isChain_cons_cons.2 ⟨.inr htok, h⟩

/-- Every token of the pass has the shape of its kind. -/
theorem scan_spelled (pending cs : List Char) :
    ∀ tok ∈ scan pending cs, tok.Spelled := by
  fun_induction scan pending cs with
  | case1 pending =>
    intro tok htok
    rcases mem_flushLiteral.1 htok with ⟨hne, rfl⟩ | hmem
    · exact literal_spelled hne
    · simp at hmem
  | case2 pending rest slot taken hplace raw token ih =>
    intro tok htok
    rcases mem_flushLiteral.1 htok with ⟨hne, rfl⟩ | hmem
    · exact literal_spelled hne
    rcases List.mem_cons.1 hmem with rfl | hmem
    · -- the placeholder itself, by what `placeholderIn` took
      cases slot with
      | none =>
        obtain ⟨lead, hle, -, htake⟩ := placeholderIn_count hplace
        rcases Nat.le_one_iff_eq_zero_or_eq_one.1 hle with rfl | rfl
        · left
          simp [raw, htake]
        · right
          simp [raw, htake]
      | some k =>
        obtain ⟨hk1, hk99, lead, hle, -, htake⟩ := placeholderIn_arg hplace
        exact ⟨hk1, hk99, by simpa [token, raw, htake] using ofList_percent_lead hle (toString k)⟩
    · exact ih tok hmem
  | case3 pending rest _ ih => exact ih
  | case4 pending c rest _ ih => exact ih

/-- No two literals of the pass stand side by side. -/
theorem scan_apart (pending cs : List Char) :
    (scan pending cs).IsChain Token.Apart := by
  fun_induction scan pending cs with
  | case1 pending =>
    unfold flushLiteral
    split <;> simp
  | case2 pending rest slot taken hplace raw token ih =>
    have hplaceholder : token.isLiteral = false := by
      cases slot <;> rfl
    apply flushLiteral_apart pending hplaceholder
    -- the tokens after a placeholder start with a placeholder or a literal
    cases hnext : scan [] (rest.drop taken) with
    | nil => simp
    | cons next more =>
      rw [hnext] at ih
      exact List.isChain_cons_cons.2 ⟨.inl hplaceholder, ih⟩
  | case3 pending rest _ ih => exact ih
  | case4 pending c rest _ ih => exact ih

/-! ## Consequences -/

theorem tokenize_spelled (text : String) : ∀ tok ∈ tokenize text, tok.Spelled := by
  rw [tokenize_eq_scan]
  exact scan_spelled [] text.toList

/-- Filled with no count and no arguments, a token stays as written. -/
theorem fill_none_nil (rank : Nat → Nat) (tok : Token) :
    tok.fill rank none [] = tok.written := by
  cases tok <;> simp [Token.fill, Token.written]

theorem substitute_none_nil (text : String) : substitute text none [] = text := by
  rw [substitute_eq_join_fill, funext (fill_none_nil _)]
  exact tokenize_written text

theorem numbers_within (text : String) : ∀ k ∈ numbers text, 1 ≤ k ∧ k ≤ 99 := by
  intro k hk
  obtain ⟨tok, htok, hnum⟩ := List.mem_filterMap.1 (mem_numbersOf.1 hk)
  cases tok with
  | arg j raw =>
    simp only [Token.number?, Option.some.injEq] at hnum
    subst hnum
    exact ⟨(tokenize_spelled text _ htok).1, (tokenize_spelled text _ htok).2.1⟩
  | literal t => simp [Token.number?] at hnum
  | count raw => simp [Token.number?] at hnum

/-- Every slice tokenizing takes of a text lies on character boundaries, so none falls back to the
empty text; the tokens spell the text out exactly; each has the shape of its kind (no empty literal,
`%n` or `%Ln` for the count, `%` and an optional `L` before an argument number from 1 to 99
written in decimal); no two literals stand side by side. So substituting nothing gives the text
back, and its argument numbers lie in 1..99. -/
theorem tokenize_partition (text : String) :
    (∀ cut ∈ cutsFrom (bytesOf text) 0 0, cut.start ≤ cut.stop ∧
      isCharBoundary (bytesOf text) cut.start = true ∧ isCharBoundary (bytesOf text) cut.stop = true ∧
        (slice (bytesOf text) cut.start cut.stop).isSome) ∧
    String.join ((tokenize text).map Token.written) = text ∧
    (∀ tok ∈ tokenize text, tok.Spelled) ∧
    (tokenize text).IsChain Token.Apart ∧
    substitute text none [] = text ∧
    ∀ k ∈ numbers text, 1 ≤ k ∧ k ≤ 99 :=
  ⟨cutsFrom_on_boundaries text, tokenize_written text, tokenize_spelled text,
    tokenize_eq_scan text ▸ scan_apart [] text.toList, substitute_none_nil text, numbers_within text⟩

example : tokenize "%%1 of 100%" = [.literal "%", .arg 1 "%1", .literal " of 100%"] := by
  decide +kernel

end Phrasebook.Template
