import Phrasebook.Proofs.Workspace.Recording
import Mathlib.Data.List.Induction

/-! # What an indexer keeps per path

An indexer is driven by calls that read a file (a document replaces whatever its path had, a
failure removes its path's document) and by calls that forget everything; two texts are one path
when they have the same parts, so `a//b` stands for `a/b`. From the empty indexer, after any
calls, no path is both the path of a document and the path of a failure. Failures are not kept
one per path, though: a read that fails adds a failure without dropping the older ones of its
path, so a path has one failure for each failing read of it since its last successful read (under
any spelling of the path) or the last time everything was forgotten.
-/

namespace Phrasebook.Indexer

namespace Call

/-- Whether a call ends the failures of a path: forgetting everything, or reading the path with
success. -/
def resets (p : String) : Call → Bool
  | .indexFile t q => Files.samePath q p && (loadDocument t q).toBool
  | .clear => true

/-- Whether a call records a failure of a path: reading it without success. -/
def fails (p : String) : Call → Bool
  | .indexFile t q => q == p && !(loadDocument t q).toBool
  | .clear => false

end Call

/-- No path is both the path of a document and the path of a failure. -/
def Apart (ix : Indexer) : Prop :=
  ∀ f ∈ ix.failures, ∀ x ∈ ix.documents, Files.parts x.1 ≠ Files.parts f.path

/-- The number of failures recorded for a path. -/
def failureCount (ix : Indexer) (p : String) : Nat :=
  (ix.failures.map (·.path)).count p

theorem apart_record {ix : Indexer} (h : ix.Apart) (q : String) (r : Except IndexError Document) :
    (ix.record q r).Apart := by
  intro f hf x hx
  cases r with
  | ok d =>
    -- the failures of `q` are dropped, and `q` is the only path that can be new among the documents
    simp only [record, List.mem_filter, Bool.not_eq_true', Files.samePath_eq_false_iff] at hf hx
    rcases path_mem_placeDocument hx with hq | hx
    · exact hq ▸ hf.2.symm
    · obtain ⟨y, hy, hyx⟩ := List.mem_map.1 hx
      exact hyx ▸ h f hf.1 y hy
  | error e =>
    simp only [record, List.mem_append, List.mem_singleton, List.mem_filter, Bool.not_eq_true',
      Files.samePath_eq_false_iff] at hf hx
    rcases hf with hf | rfl
    · exact h f hf x hx.1
    · exact hx.2

theorem apart_call {ix : Indexer} (h : ix.Apart) (c : Call) : (ix.call c).Apart := by
  cases c with
  | indexFile t q => exact apart_record h q _
  | clear => exact fun f hf => absurd hf List.not_mem_nil

theorem apart_perform {ix : Indexer} (h : ix.Apart) (cs : List Call) : (ix.perform cs).Apart := by
  induction cs generalizing ix with
  | nil => exact h
  | cons c cs ih => exact ih (apart_call h c)

theorem failureCount_eq_countP (ix : Indexer) (p : String) :
    ix.failureCount p = ix.failures.countP (·.path == p) := by
  simp only [failureCount, List.count, List.countP_map]
  rfl

theorem failureCount_record (ix : Indexer) (p q : String) (r : Except IndexError Document) :
    (ix.record q r).failureCount p =
      if r.toBool then (if Files.samePath q p then 0 else ix.failureCount p)
      else ix.failureCount p + if q = p then 1 else 0 := by
  simp only [failureCount_eq_countP]
  cases r with
  | ok d =>
    -- a document drops every failure of its path, under any spelling, and keeps the others
    simp only [record, Except.toBool, if_true, List.countP_filter]
    split
    · rename_i hq
      simp only [Files.samePath, beq_iff_eq] at hq
      refine List.countP_eq_zero.2 fun f _ => ?_
      simp only [Bool.and_eq_true, beq_iff_eq, Bool.not_eq_true', Files.samePath_eq_false_iff]
      rintro ⟨hf, hne⟩
      exact hne (hf ▸ hq.symm)
    · rename_i hq
      have hq : Files.parts q ≠ Files.parts p := by simpa [Files.samePath] using hq
      refine List.countP_congr fun f _ => ?_
      simp only [Bool.and_eq_true, beq_iff_eq, Bool.not_eq_true', Files.samePath_eq_false_iff]
      exact and_iff_left_of_imp fun h => h ▸ Ne.symm hq
  | error e =>
    simp only [record, Except.toBool, List.countP_append, List.countP_singleton]
    split <;> simp_all

theorem failureCount_call (ix : Indexer) (p : String) (c : Call) :
    (ix.call c).failureCount p =
      if c.resets p then 0 else ix.failureCount p + if c.fails p then 1 else 0 := by
  cases c with
  | indexFile t q =>
    simp only [call, indexFile, failureCount_record, Call.resets, Call.fails]
    by_cases hok : (loadDocument t q).toBool = true <;> simp [hok]
  | clear => rfl

theorem perform_append (ix : Indexer) (cs : List Call) (c : Call) :
    ix.perform (cs ++ [c]) = (ix.perform cs).call c := by
  simp [perform, List.foldl_append]

/-- From the empty indexer, a path has one failure for each failing read of it since the last
call that reset it (a successful read of it, or forgetting everything). -/
theorem failureCount_perform (cs : List Call) (p : String) :
    (({} : Indexer).perform cs).failureCount p =
      (cs.reverse.takeWhile fun c => !c.resets p).countP (·.fails p) := by
  induction cs using List.reverseRecOn with
  | nil => rfl
  | append_singleton cs c ih =>
    rw [perform_append, failureCount_call, ih, List.reverse_append, List.reverse_singleton,
      List.singleton_append, List.takeWhile_cons]
    cases c.resets p
    · simp [List.countP_cons, Nat.add_comm]
    · rfl

/-- After any calls from the empty indexer, documents and failures never share a path, and a path
has one failure for each failing read of it since its last successful read or the last time
everything was forgotten. -/
theorem perform_keeps_paths_apart (cs : List Call) :
    (∀ f ∈ (({} : Indexer).perform cs).failures, ∀ x ∈ (({} : Indexer).perform cs).documents,
      x.1 ≠ f.path) ∧
    ∀ p, ((({} : Indexer).perform cs).failures.map (·.path)).count p =
      (cs.reverse.takeWhile fun c => !c.resets p).countP (·.fails p) :=
  ⟨fun f hf x hx heq => apart_perform (fun _ h => absurd h List.not_mem_nil) cs f hf x hx
      (congrArg Files.parts heq), failureCount_perform cs⟩

/-- Reading a missing file twice records its failure twice. -/
theorem failures_repeat_path :
    (({} : Indexer).perform
        [.indexFile {} "translations/app_ru.ts", .indexFile {} "translations/app_ru.ts"]).failures.map
      (·.path) = ["translations/app_ru.ts", "translations/app_ru.ts"] := by
  decide

end Phrasebook.Indexer
