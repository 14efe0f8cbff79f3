import Phrasebook.Report.Completeness
import Mathlib

/-! # Consistency of completeness reports

A report counts entries twice: once per context, and once over all the entries of the document.
The two agree: the document's tally is the sum of the contexts' tallies, each of which counts its
context's entries by status. Every tally's percentage is the finished share of the entries in use,
rounded down, or 100 when none is in use; so it is at most 100, and it is 100 exactly when no
entry is unfinished, which is the test by which the text of a report picks the contexts it lists.
-/

namespace Phrasebook

namespace Tally

attribute [ext] Tally

@[simp] theorem add_finished (a b : Tally) : (a + b).finished = a.finished + b.finished := rfl
@[simp] theorem add_unfinished (a b : Tally) : (a + b).unfinished = a.unfinished + b.unfinished := rfl
@[simp] theorem add_vanished (a b : Tally) : (a + b).vanished = a.vanished + b.vanished := rfl

instance : Zero Tally := ⟨{}⟩

@[simp] theorem zero_finished : (0 : Tally).finished = 0 := rfl
@[simp] theorem zero_unfinished : (0 : Tally).unfinished = 0 := rfl
@[simp] theorem zero_vanished : (0 : Tally).vanished = 0 := rfl

/-- Tallies add count by count, from the empty tally. -/
instance : AddCommMonoid Tally where
  add_assoc a b c := by ext <;> simp [Nat.add_assoc]
  zero_add a := by ext <;> simp
  add_zero a := by ext <;> simp
  add_comm a b := by ext <;> simp [Nat.add_comm]
  nsmul := nsmulRec
  nsmul_zero _ := rfl
  nsmul_succ _ _ := rfl

theorem total_add (a b : Tally) : (a + b).total = a.total + b.total := by
  simp only [total, add_finished, add_unfinished, add_vanished]
  omega

/-- Entries counted by status, one count at a time. -/
def byStatus (es : List Entry) : Tally :=
  { finished := es.countP (·.status = .finished)
    unfinished := es.countP (·.status = .unfinished)
    vanished := es.countP (·.status.isGone) }

theorem ofEntries_cons (e : Entry) (es : List Entry) : ofEntries (e :: es) = ofEntry e + ofEntries es :=
  rfl

theorem ofEntries_eq_byStatus (es : List Entry) : ofEntries es = byStatus es := by
  induction es with
  | nil => rfl
  | cons e es ih =>
    rw [ofEntries_cons, ih]
    -- each entry adds one to the count of its status
    ext <;> cases h : e.status <;> simp [byStatus, ofEntry, h, Status.isGone] <;> omega

theorem ofEntries_append (as bs : List Entry) : ofEntries (as ++ bs) = ofEntries as + ofEntries bs := by
  induction as with
  | nil => exact (zero_add _).symm
  | cons e as ih => rw [List.cons_append, ofEntries_cons, ofEntries_cons, ih, add_assoc]

theorem total_ofEntries (es : List Entry) : (ofEntries es).total = es.length := by
  induction es with
  | nil => rfl
  | cons e es ih =>
    rw [ofEntries_cons, total_add, ih, List.length_cons, Nat.add_comm]
    cases h : e.status <;> simp [ofEntry, total, h]

theorem total_sum (ts : List Tally) : ts.sum.total = (ts.map total).sum := by
  induction ts with
  | nil => rfl
  | cons t ts ih => rw [List.sum_cons, total_add, ih, List.map_cons, List.sum_cons]

/-! ### The percentage -/

theorem percent_le_hundred (t : Tally) : t.percent ≤ 100 := by
  unfold percent
  split
  · exact Nat.le_refl 100
  · rename_i h
    apply Nat.div_le_of_le_mul
    unfold active at h ⊢
    omega

/-- Rounded down: the percentage is the largest whole number whose share of the entries in use
does not exceed the finished ones. -/
theorem percent_floor {t : Tally} (h : t.active ≠ 0) :
    t.percent * t.active ≤ t.finished * 100 ∧ t.finished * 100 < (t.percent + 1) * t.active := by
  have hpos : 0 < t.active := Nat.pos_of_ne_zero h
  unfold percent
  rw [if_neg h]
  exact ⟨Nat.div_mul_le_self _ _, (Nat.div_lt_iff_lt_mul hpos).1 (Nat.lt_succ_self _)⟩

theorem percent_eq_hundred_iff (t : Tally) : t.percent = 100 ↔ t.unfinished = 0 := by
  unfold percent
  split
  · rename_i h
    unfold active at h
    omega
  · rename_i h
    have hpos : 0 < t.active := Nat.pos_of_ne_zero h
    constructor
    · intro h100
      have hmul := (Nat.le_div_iff_mul_le hpos).1 (Nat.le_of_eq h100.symm)
      unfold active at hmul
      omega
    · intro hu
      have hact : t.active = t.finished := by
        unfold active
        omega
      rw [hact]
      exact Nat.mul_div_cancel_left 100 (hact ▸ hpos)

theorem isComplete_iff (t : Tally) : t.isComplete ↔ t.unfinished = 0 := by
  simp [isComplete]

/-- Every tally is consistent: its total is the sum of its counts, its percentage is the finished
share of the entries in use rounded down, or 100 when none is in use, so it is at most 100 and it
is 100 exactly when the tally is complete. -/
theorem consistent (t : Tally) :
    t.total = t.finished + t.unfinished + t.vanished ∧
    (t.active = 0 → t.percent = 100) ∧
    (t.active ≠ 0 →
      t.percent * t.active ≤ t.finished * 100 ∧ t.finished * 100 < (t.percent + 1) * t.active) ∧
    t.percent ≤ 100 ∧ (t.percent = 100 ↔ t.isComplete) :=
  ⟨rfl, fun h => if_pos h, percent_floor, percent_le_hundred t,
    (percent_eq_hundred_iff t).trans (isComplete_iff t).symm⟩

end Tally

theorem Tally.ofEntries_flatMap (cs : List Context) :
    Tally.ofEntries (cs.flatMap (·.entries)) = (cs.map fun c => Tally.ofEntries c.entries).sum := by
  induction cs with
  | nil => rfl
  | cons c cs ih => rw [List.flatMap_cons, Tally.ofEntries_append, ih, List.map_cons, List.sum_cons]

/-- The line of the text of a report for one context. -/
def ContextTally.line (c : ContextTally) : String :=
  "  " ++ c.name ++ ": " ++ toString c.tally.finished ++ "/" ++ toString c.tally.active
    ++ " (" ++ toString c.tally.percent ++ "%)\n"

namespace Completeness

/-- The first line of the text of a report: the tally of the whole document. -/
def summary (r : Completeness) : String :=
  (r.language.getD "(unknown)") ++ ": " ++ toString r.tally.finished ++ "/" ++ toString r.tally.active
    ++ " finished (" ++ toString r.tally.percent ++ "%), " ++ toString r.tally.unfinished
    ++ " unfinished, " ++ toString r.tally.vanished ++ " vanished\n"

/-- The text of a report lists, after its summary, exactly the contexts with unfinished entries,
in order. -/
theorem render_eq (r : Completeness) :
    r.render = r.summary ++
      String.join ((r.contexts.filter fun c => c.tally.unfinished ≠ 0).map ContextTally.line) := by
  have hfilter : (r.contexts.filter fun c => !c.tally.isComplete) =
      r.contexts.filter fun c => c.tally.unfinished ≠ 0 :=
    List.filter_congr fun c _ => by
      unfold Tally.isComplete
      cases c.tally.unfinished <;> rfl
  rw [render, summary, hfilter]
  rfl

end Completeness

namespace Document

/-- A completeness report is consistent: it has one tally per context of the document, in order,
counting the context's entries by status; the document's tally is the sum of the contexts'
tallies and its total is the number of entries and the sum of the contexts' totals; every tally
is consistent (`Tally.consistent`); and the text lists exactly the contexts with unfinished
entries. -/
theorem completeness_consistent (d : Document) :
    d.completeness.contexts = d.contexts.map (fun c => ⟨c.name, Tally.byStatus c.entries⟩) ∧
    d.completeness.tally = (d.completeness.contexts.map (·.tally)).sum ∧
    d.completeness.tally.total = (d.completeness.contexts.map (·.tally.total)).sum ∧
    d.completeness.tally.total = (d.contexts.flatMap (·.entries)).length ∧
    (∀ t ∈ d.completeness.tally :: d.completeness.contexts.map (·.tally),
      t.total = t.finished + t.unfinished + t.vanished ∧
      (t.active = 0 → t.percent = 100) ∧
      (t.active ≠ 0 →
        t.percent * t.active ≤ t.finished * 100 ∧ t.finished * 100 < (t.percent + 1) * t.active) ∧
      t.percent ≤ 100 ∧ (t.percent = 100 ↔ t.isComplete)) ∧
    d.completeness.render = d.completeness.summary ++
      String.join ((d.completeness.contexts.filter fun c => c.tally.unfinished ≠ 0).map
        ContextTally.line) := by
  have hsum : d.completeness.tally = (d.completeness.contexts.map (·.tally)).sum := by
    simp only [completeness, List.map_map, Tally.ofEntries_flatMap]
    rfl
  refine ⟨?_, hsum, ?_, ?_, fun t _ => t.consistent, Completeness.render_eq _⟩
  · simp [completeness, Tally.ofEntries_eq_byStatus]
  · rw [hsum, Tally.total_sum, List.map_map]
    rfl
  · exact Tally.total_ofEntries _

end Document

end Phrasebook
