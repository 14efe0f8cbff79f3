import Phrasebook.Markup.Layout
import Phrasebook.Markup.Attribute
import Phrasebook.Proofs.Markup.Escape

/-! # Written attributes read back

An attribute is written as a blank, its key, `="`, its escaped value and `"`. When every key
is a plain name, reading the written list for a key walks over the attributes before the
first one with that key and returns that one's value, still escaped; when no attribute has
the key, it reads to the end and finds none.
-/

namespace Phrasebook.Markup

/-- A name that markup reads whole: not empty, and made of ASCII letters. -/
def PlainName (n : String) : Prop :=
  n.toList ≠ [] ∧ ∀ c ∈ n.toList, c.isAlpha = true

theorem plainName_iff_all (n : String) : PlainName n ↔ n.toList ≠ [] ∧ n.toList.all Char.isAlpha = true := by
  simp [PlainName, List.all_eq_true]

instance (n : String) : Decidable (PlainName n) := decidable_of_iff _ (plainName_iff_all n).symm

theorem ne_of_isAlpha {c x : Char} (hc : c.isAlpha = true) (hx : x.isAlpha = false) : c ≠ x := by
  rintro rfl
  simp [hc] at hx

theorem isBlank_of_isAlpha {c : Char} (hc : c.isAlpha = true) : isBlank c = false := by
  have h1 := ne_of_isAlpha hc (x := ' ') (by decide)
  have h2 := ne_of_isAlpha hc (x := '\t') (by decide)
  have h3 := ne_of_isAlpha hc (x := '\r') (by decide)
  have h4 := ne_of_isAlpha hc (x := '\n') (by decide)
  simp [isBlank, h1, h2, h3, h4]

theorem renderAttributes_toList (attrs : List (String × String)) :
    (renderAttributes attrs).toList =
      attrs.flatMap fun kv => ' ' :: (kv.1.toList ++ '=' :: '"' :: ((escape kv.2).toList ++ ['"'])) := by
  simp [renderAttributes, String.toList_join, List.flatMap_map, String.toList_append]

section Lookup

variable (wanted : List Char) (total : Nat)

/-- The characters of a key are gathered, reversed, up to its `=`. -/
theorem lookupFrom_key (ks rest : List Char) (hk : ∀ c ∈ ks, c.isAlpha = true) (pos : Nat)
    (acc : List Char) :
    ∃ pos', lookupFrom wanted total (.key acc) pos (ks ++ '=' :: rest) =
      lookupFrom wanted total (.afterEq (ks.reverse ++ acc).reverse) pos' rest := by
  induction ks generalizing pos acc with
  | nil => exact ⟨pos + 1, by simp [lookupFrom]⟩
  | cons c cs ih =>
    have hc := hk c List.mem_cons_self
    obtain ⟨pos', h⟩ := ih (fun x hx => hk x (List.mem_cons_of_mem c hx)) (pos + c.utf8Size) (c :: acc)
    refine ⟨pos', ?_⟩
    rw [List.cons_append, lookupFrom, if_neg (ne_of_isAlpha hc (by decide)), isBlank_of_isAlpha hc]
    simpa using h

/-- The characters of a value are gathered, reversed, up to the closing quote. -/
theorem lookupFrom_value (key vs rest : List Char) (q : Char) (hq : q ∉ vs) (pos : Nat)
    (acc : List Char) :
    ∃ pos', lookupFrom wanted total (.value key q acc) pos (vs ++ q :: rest) =
      lookupFrom wanted total (.value key q (vs.reverse ++ acc)) pos' (q :: rest) := by
  induction vs generalizing pos acc with
  | nil => exact ⟨pos, rfl⟩
  | cons c cs ih =>
    have hc : c ≠ q := fun h => hq (h ▸ List.mem_cons_self)
    obtain ⟨pos', h⟩ := ih (fun h => hq (List.mem_cons_of_mem c h)) (pos + c.utf8Size) (c :: acc)
    refine ⟨pos', ?_⟩
    rw [List.cons_append, lookupFrom, if_neg hc]
    simpa using h

/-- One written attribute: its value when its key is the wanted one, else the attributes after
it. -/
theorem lookupFrom_attribute (k v : String) (hk : PlainName k) (rest : List Char) (pos : Nat) :
    ∃ pos', lookupFrom wanted total .between pos
        (' ' :: (k.toList ++ '=' :: '"' :: ((escape v).toList ++ '"' :: rest))) =
      if k.toList == wanted then .ok (some (escape v).toList)
      else lookupFrom wanted total .between pos' rest := by
  obtain ⟨hne, halpha⟩ := hk
  obtain ⟨c, cs, hcs⟩ := List.exists_cons_of_ne_nil hne
  have hc : c.isAlpha = true := halpha c (by simp [hcs])
  have hcsa : ∀ x ∈ cs, x.isAlpha = true := fun x hx => halpha x (by simp [hcs, hx])
  have hq : '"' ∉ (escape v).toList := not_mem_escape (by simp) v
  obtain ⟨p₁, hkey⟩ := lookupFrom_key wanted total cs ('"' :: ((escape v).toList ++ '"' :: rest))
    hcsa (pos + ' '.utf8Size + c.utf8Size) [c]
  obtain ⟨p₂, hval⟩ := lookupFrom_value wanted total k.toList (escape v).toList rest '"' hq (p₁ + 1) []
  refine ⟨p₂ + 1, ?_⟩
  have hblank : isBlank ' ' = true := by decide
  -- blank, first key character, rest of the key, quote, value, closing quote
  rw [hcs, lookupFrom, if_pos hblank, List.cons_append, lookupFrom, isBlank_of_isAlpha hc,
    if_neg (by decide), hkey, lookupFrom, if_neg (by decide), if_pos (by simp)]
  simp only [List.reverse_cons, List.reverse_nil, List.nil_append, List.reverse_append,
    List.reverse_reverse, List.singleton_append]
  rw [← hcs, hval, lookupFrom, if_pos rfl]
  simp

/-- Reading written attributes for a key finds the first attribute with that key. -/
theorem lookupFrom_rendered (attrs : List (String × String)) (hk : ∀ kv ∈ attrs, PlainName kv.1)
    (pos : Nat) :
    lookupFrom wanted total .between pos (renderAttributes attrs).toList =
      .ok ((attrs.find? fun kv => kv.1.toList == wanted).map fun kv => (escape kv.2).toList) := by
  rw [renderAttributes_toList]
  induction attrs generalizing pos with
  | nil => simp [lookupFrom]
  | cons kv attrs ih =>
    let written := attrs.flatMap fun kv =>
      ' ' :: (kv.1.toList ++ '=' :: '"' :: ((escape kv.2).toList ++ ['"']))
    obtain ⟨pos', h⟩ := lookupFrom_attribute wanted total kv.1 kv.2 (hk kv List.mem_cons_self) written pos
    have hsplit : (' ' :: (kv.1.toList ++ '=' :: '"' :: ((escape kv.2).toList ++ ['"']))) ++ written =
        ' ' :: (kv.1.toList ++ '=' :: '"' :: ((escape kv.2).toList ++ '"' :: written)) := by
      simp
    rw [List.flatMap_cons, hsplit, h]
    by_cases hkey : (kv.1.toList == wanted) = true
    · simp [hkey]
    · rw [if_neg hkey, ih (fun kv h => hk kv (List.mem_cons_of_mem _ h))]
      simp [hkey]

end Lookup

theorem Tag.rawAttribute_rendered (n key : String) (attrs : List (String × String))
    (hk : ∀ kv ∈ attrs, PlainName kv.1) :
    Tag.rawAttribute ⟨n, (n ++ renderAttributes attrs).toList⟩ key =
      .ok ((attrs.find? fun kv => kv.1 == key).map fun kv => (escape kv.2).toList) := by
  simp only [Tag.rawAttribute, String.toList_append, List.drop_left]
  have hp : (fun kv : String × String => kv.1.toList == key.toList) = fun kv => kv.1 == key := by
    funext kv
    rw [Bool.eq_iff_iff, beq_iff_eq, beq_iff_eq, String.toList_inj]
  rw [lookupFrom_rendered _ _ attrs hk, hp]

end Phrasebook.Markup
