import Phrasebook.Lookup.Active

/-! # Sessions on the active catalog

Over any list of calls on an active catalog, each part of its state has one writer. The lookup
options are those of the last `setOptions`, or the first ones when there was none; the catalog in
use is the one put in use by the last call that changed it (a `replace`, a `load` whose text reads
as a catalog, a switch that found a catalog, or a `clear`, which puts none in use), or the first
one. Every call that answers a catalog answers the one in use right before it, and a load that
fails or a switch that finds nothing leaves the state as it was.

All of it comes from one equation per call (`Active.call_snd`): a call sets the catalog to what it
puts in use and the options to what it sets, and keeps the rest.
-/

namespace Phrasebook.Active

/-- The options a call sets, if it sets any. -/
def Call.options? : Call → Option LookupOptions
  | .setOptions o => some o
  | _ => none

/-- The catalog a call puts in use, if it changes the catalog in use: `clear` puts none in use, a
`load` the catalog its text reads as, and a switch the collection's catalog for the language,
when there is one. -/
def Call.installs? : Call → Option (Option Catalog)
  | .replace c => some (some c)
  | .clear => some none
  | .setOptions _ => none
  | .load text =>
    match Catalog.ofText text with
    | .ok c => some (some c)
    | .error _ => none
  | .switchTo s language => (s.get? language).map some

/-- The calls that answer the catalog they take the place of: `replace`, `clear`, and a `load`
whose text reads as a catalog. -/
def Call.Replaces : Call → Prop
  | .replace _ => True
  | .clear => True
  | .load text => ∃ c, Catalog.ofText text = .ok c
  | _ => False

/-- The catalog an answer names as the one used before, if it names one. -/
def Reply.previous? : Reply → Option (Option Catalog)
  | .previous c => some c
  | .loaded (.ok c) => some c
  | _ => none

/-- An answer that says the call did nothing: a load that failed, or a switch that found no
catalog. -/
def Reply.Refused : Reply → Prop
  | .loaded (.error _) => True
  | .switched false => True
  | _ => False

/-! ## One call -/

/-- A call puts in use what it installs, sets the options it sets, and keeps the rest. -/
theorem call_snd (a : Active) (c : Call) :
    (a.call c).2 = { current := { catalog := c.installs?.getD a.translator.catalog,
                                  options := c.options?.getD a.translator.options } } := by
  cases c with
  | replace c => rfl
  | clear => rfl
  | setOptions o => rfl
  | load text =>
    simp only [call, load, Call.installs?, Call.options?]
    cases Catalog.ofText text <;> rfl
  | switchTo s language =>
    simp only [call, switchTo, Call.installs?, Call.options?]
    cases s.get? language <;> rfl

theorem call_previous (a : Active) {c : Call} (h : c.Replaces) :
    (a.call c).1.previous? = some a.translator.catalog := by
  cases c with
  | replace c => rfl
  | clear => rfl
  | load text =>
    obtain ⟨k, hk⟩ := h
    simp only [call, load, hk]
    rfl
  | setOptions o => exact h.elim
  | switchTo s language => exact h.elim

theorem call_refused (a : Active) {c : Call} (h : (a.call c).1.Refused) : (a.call c).2 = a := by
  cases c with
  | replace c => exact h.elim
  | clear => exact h.elim
  | setOptions o => exact h.elim
  | load text =>
    simp only [call, load] at h ⊢
    cases hk : Catalog.ofText text with
    | error e => rfl
    | ok k =>
      rw [hk] at h
      exact h.elim
  | switchTo s language =>
    simp only [call, switchTo] at h ⊢
    cases hk : s.get? language with
    | none => rfl
    | some k =>
      rw [hk] at h
      exact h.elim

/-- A switch answers whether it put a catalog in use. -/
theorem call_switchTo_found (a : Active) (s : Collection) (language : String) :
    (a.call (.switchTo s language)).1 = .switched (s.get? language).isSome := by
  simp only [call, switchTo]
  cases s.get? language <;> rfl

/-! ## Lists of calls -/

@[simp] theorem perform_nil (a : Active) : a.perform [] = ([], a) := rfl

theorem perform_cons (a : Active) (c : Call) (cs : List Call) :
    a.perform (c :: cs) =
      ((a.call c).1 :: ((a.call c).2.perform cs).1, ((a.call c).2.perform cs).2) :=
  rfl

theorem perform_append (a : Active) (xs ys : List Call) :
    a.perform (xs ++ ys) =
      ((a.perform xs).1 ++ ((a.perform xs).2.perform ys).1, ((a.perform xs).2.perform ys).2) := by
  induction xs generalizing a with
  | nil => rfl
  | cons c cs ih => simp [perform_cons, ih]

/-- The state after one more call is that call's state from the state before it. -/
theorem perform_take_succ (a : Active) {calls : List Call} {i : Nat} {c : Call}
    (hc : calls[i]? = some c) :
    (a.perform (calls.take (i + 1))).2 = ((a.perform (calls.take i)).2.call c).2 := by
  rw [List.take_add_one, hc, Option.toList_some, perform_append]
  rfl

/-- The answer to the `i`-th call is that call's answer from the state the calls before it left. -/
theorem perform_reply (a : Active) (calls : List Call) (i : Nat) :
    (a.perform calls).1[i]? = calls[i]?.map fun c => ((a.perform (calls.take i)).2.call c).1 := by
  induction calls generalizing a i with
  | nil => rfl
  | cons c cs ih =>
    cases i with
    | zero => rfl
    | succ i =>
      rw [perform_cons, List.getElem?_cons_succ, ih, List.getElem?_cons_succ, List.take_succ_cons,
        perform_cons]

/-- The last value a list of calls gives, or `x` when none gives one: one call more in front moves
the default to what that call gives. -/
theorem getLast?_filterMap_cons_getD {α β : Type} (f : α → Option β) (c : α) (cs : List α)
    (x : β) :
    ((c :: cs).filterMap f).getLast?.getD x = (cs.filterMap f).getLast?.getD ((f c).getD x) := by
  cases h : f c <;> simp [h, List.getLast?_cons]

theorem perform_options (a : Active) (calls : List Call) :
    (a.perform calls).2.translator.options =
      (calls.filterMap Call.options?).getLast?.getD a.translator.options := by
  induction calls generalizing a with
  | nil => rfl
  | cons c cs ih =>
    rw [perform_cons, getLast?_filterMap_cons_getD, ih, call_snd]
    rfl

theorem perform_catalog (a : Active) (calls : List Call) :
    (a.perform calls).2.translator.catalog =
      (calls.filterMap Call.installs?).getLast?.getD a.translator.catalog := by
  induction calls generalizing a with
  | nil => rfl
  | cons c cs ih =>
    rw [perform_cons, getLast?_filterMap_cons_getD, ih, call_snd]
    rfl

/-- Over every list of calls on an active catalog: the options at the end are those of the last
`setOptions`, or the first ones; the catalog in use at the end is the one the last call that
changed it put in use, or the first one; each `replace`, `clear` and successful `load` answers the
catalog in use right before it; a failed `load` and a switch that finds nothing change nothing;
and a switch answers whether it found a catalog. -/
theorem perform_session (a : Active) (calls : List Call) :
    (a.perform calls).2.translator.options =
        (calls.filterMap Call.options?).getLast?.getD a.translator.options ∧
      (a.perform calls).2.translator.catalog =
        (calls.filterMap Call.installs?).getLast?.getD a.translator.catalog ∧
      (∀ (i : Nat) (c : Call) (r : Reply), calls[i]? = some c →
        (a.perform calls).1[i]? = some r → c.Replaces →
        r.previous? = some (a.perform (calls.take i)).2.translator.catalog) ∧
      (∀ (i : Nat) (r : Reply), (a.perform calls).1[i]? = some r → r.Refused →
        (a.perform (calls.take (i + 1))).2 = (a.perform (calls.take i)).2) ∧
      (∀ (i : Nat) (s : Collection) (language : String) (r : Reply),
        calls[i]? = some (Call.switchTo s language) → (a.perform calls).1[i]? = some r →
        r = Reply.switched (s.get? language).isSome) := by
  refine ⟨perform_options a calls, perform_catalog a calls, ?_, ?_, ?_⟩
  · intro i c r hc hr hrep
    rw [perform_reply, hc, Option.map_some, Option.some.injEq] at hr
    rw [← hr]
    exact call_previous _ hrep
  · intro i r hr hrefused
    rw [perform_reply] at hr
    obtain ⟨c, hc, rfl⟩ := Option.map_eq_some_iff.1 hr
    rw [perform_take_succ a hc]
    exact call_refused _ hrefused
  · intro i s language r hc hr
    rw [perform_reply, hc, Option.map_some, Option.some.injEq] at hr
    rw [← hr, call_switchTo_found]

end Phrasebook.Active
