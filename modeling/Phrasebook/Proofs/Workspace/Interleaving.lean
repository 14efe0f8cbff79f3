import Phrasebook.Proofs.Workspace.Recording

/-! # Reading the files at once: what every interleaving gives

Each step of a task changes its own stage and, for the two updates, the indexer. So every state
a run reaches keeps the tasks in the order of the files, and holds the documents of the tasks
done, placed in the order of the files, and their failures in some order. The placing order does
not matter: a task's first update finds nothing of its path in the indexer, since no other task
has that path, and its document commutes with those of later files, whose paths have other
names. A run that finishes therefore ends with the documents and the number of files read that
reading the files one after another gives, and with the same failures, which come in the order
in which the tasks finished and not in the order of the files.
-/

namespace Phrasebook

theorem exists_split_of_getElem {α : Type} {l : List α} {i : Nat} {x : α} (h : l[i]? = some x) :
    ∃ A B, l = A ++ x :: B ∧ A.length = i := by
  obtain ⟨hi, rfl⟩ := List.getElem?_eq_some_iff.1 h
  refine ⟨l.take i, l.drop (i + 1), ?_, by simp; omega⟩
  rw [List.getElem_cons_drop, List.take_append_drop]

/-- Once the file is read, the stage holds `r`. -/
def TaskStage.Holds (r : Except IndexError Document) : TaskStage → Prop
  | .waiting | .reading => True
  | .read r' | .cleared r' | .done r' => r' = r

/-- What the files whose tasks are done gave, in the order of the files. -/
def taskOutcomes (l : List (String × TaskStage)) : List (String × Except IndexError Document) :=
  l.filterMap fun t => t.2.outcome?.map (t.1, ·)

section Tasks

variable {A B : List (String × TaskStage)} {p : String} {st : TaskStage}

@[simp] theorem taskOutcomes_append (l l' : List (String × TaskStage)) :
    taskOutcomes (l ++ l') = taskOutcomes l ++ taskOutcomes l' :=
  List.filterMap_append

theorem taskOutcomes_middle (h : st.outcome? = none) :
    taskOutcomes (A ++ (p, st) :: B) = taskOutcomes (A ++ B) := by
  simp [taskOutcomes, h]

theorem taskOutcomes_middle_done (r : Except IndexError Document) :
    taskOutcomes (A ++ (p, .done r) :: B) = taskOutcomes A ++ (p, r) :: taskOutcomes B := by
  simp [taskOutcomes, TaskStage.outcome?]

theorem taskOutcomes_map_waiting (l : List String) :
    taskOutcomes (l.map (·, .waiting)) = [] := by
  rw [taskOutcomes, List.filterMap_map]
  exact List.filterMap_eq_nil_iff.2 fun _ _ => rfl

theorem path_of_mem_taskOutcomes {q : String} {l : List (String × TaskStage)}
    (h : q ∈ (taskOutcomes l).map Prod.fst) : q ∈ l.map Prod.fst := by
  obtain ⟨x, hx, rfl⟩ := List.mem_map.1 h
  obtain ⟨t, ht, hx⟩ := List.mem_filterMap.1 hx
  obtain ⟨r, -, rfl⟩ := Option.map_eq_some_iff.1 hx
  exact List.mem_map_of_mem ht

end Tasks

namespace LoadJob

variable {job : LoadJob} {s s' : Loading} {i : Nat}

/-! ### Steps -/

section Steps

variable (job : LoadJob) (ix : Indexer) (A B : List (String × TaskStage)) (p : String)

theorem step_waiting (h : Loading.held ⟨ix, A ++ (p, .waiting) :: B⟩ < job.permits) :
    job.step ⟨ix, A ++ (p, .waiting) :: B⟩ A.length = some ⟨ix, A ++ (p, .reading) :: B⟩ := by
  simp [step, h]

theorem step_waiting_full (h : job.permits ≤ Loading.held ⟨ix, A ++ (p, .waiting) :: B⟩) :
    job.step ⟨ix, A ++ (p, .waiting) :: B⟩ A.length = none := by
  simp [step, Nat.not_lt.2 h]

theorem step_reading :
    job.step ⟨ix, A ++ (p, .reading) :: B⟩ A.length =
      some ⟨ix, A ++ (p, .read (job.load p)) :: B⟩ := by
  simp [step]

theorem step_read (r : Except IndexError Document) :
    job.step ⟨ix, A ++ (p, .read r) :: B⟩ A.length =
      some ⟨ix.clearFor p r, A ++ (p, .cleared r) :: B⟩ := by
  simp [step]

theorem step_cleared (r : Except IndexError Document) :
    job.step ⟨ix, A ++ (p, .cleared r) :: B⟩ A.length =
      some ⟨ix.keepFor p r, A ++ (p, .done r) :: B⟩ := by
  simp [step]

theorem step_done (r : Except IndexError Document) :
    job.step ⟨ix, A ++ (p, .done r) :: B⟩ A.length = none := by
  simp [step]

end Steps

/-- What one step can do: take a permit when one is free, read the file, or make the next
update. -/
theorem step_cases (h : job.step s i = some s') :
    ∃ A B p,
      (s.tasks = A ++ (p, .waiting) :: B ∧ s.held < job.permits ∧
        s' = ⟨s.indexer, A ++ (p, .reading) :: B⟩) ∨
      (s.tasks = A ++ (p, .reading) :: B ∧ s' = ⟨s.indexer, A ++ (p, .read (job.load p)) :: B⟩) ∨
      (∃ r, s.tasks = A ++ (p, .read r) :: B ∧
        s' = ⟨s.indexer.clearFor p r, A ++ (p, .cleared r) :: B⟩) ∨
      (∃ r, s.tasks = A ++ (p, .cleared r) :: B ∧
        s' = ⟨s.indexer.keepFor p r, A ++ (p, .done r) :: B⟩) := by
  obtain ⟨ix, tasks⟩ := s
  cases ht : tasks[i]? with
  | none => simp [step, ht] at h
  | some t =>
    obtain ⟨A, B, rfl, rfl⟩ := exists_split_of_getElem ht
    obtain ⟨p, st⟩ := t
    refine ⟨A, B, p, ?_⟩
    cases st with
    | waiting =>
      by_cases hp : Loading.held ⟨ix, A ++ (p, .waiting) :: B⟩ < job.permits
      · rw [step_waiting job ix A B p hp, Option.some.injEq] at h
        exact .inl ⟨rfl, hp, h.symm⟩
      · rw [step_waiting_full job ix A B p (Nat.not_lt.1 hp)] at h
        cases h
    | reading =>
      rw [step_reading, Option.some.injEq] at h
      exact .inr (.inl ⟨rfl, h.symm⟩)
    | read r =>
      rw [step_read, Option.some.injEq] at h
      exact .inr (.inr (.inl ⟨r, rfl, h.symm⟩))
    | cleared r =>
      rw [step_cleared, Option.some.injEq] at h
      exact .inr (.inr (.inr ⟨r, rfl, h.symm⟩))
    | done r =>
      rw [step_done] at h
      cases h

/-! ### The invariant -/

/-- What holds of every state that a run reaches: the tasks stay in the order of the files, each
holds what its file gives, the documents are those of the tasks done, placed in the order of the
files, and the failures are theirs, in some order. -/
structure Invariant (job : LoadJob) (s : Loading) : Prop where
  paths : s.tasks.map Prod.fst = job.files
  holds : ∀ t ∈ s.tasks, t.2.Holds (job.load t.1)
  documents : s.indexer.documents = documentsOf (readDocuments (taskOutcomes s.tasks))
  failures : s.indexer.failures.Perm (readFailures (taskOutcomes s.tasks))

theorem invariant_start (job : LoadJob) : job.Invariant job.start where
  paths := by simp [start, Function.comp_def]
  holds := by simp [start, TaskStage.Holds]
  documents := by simp [start, taskOutcomes_map_waiting, documentsOf]
  failures := by simp [start, taskOutcomes_map_waiting]

section Middle

variable {ix : Indexer} {A B : List (String × TaskStage)} {p : String} {st st' : TaskStage}
  {r : Except IndexError Document}

theorem fresh_middle (hfiles : (job.files.map Files.parts).Nodup)
    (hpaths : (A ++ (p, st) :: B).map Prod.fst = job.files) :
    ∀ q ∈ (A ++ B).map Prod.fst, Files.parts q ≠ Files.parts p := by
  rw [← hpaths, List.map_map, List.map_append, List.map_cons] at hfiles
  have hp := (List.nodup_cons.1 (List.perm_middle.nodup_iff.1 hfiles)).1
  rw [← List.map_append] at hp
  intro q hq heq
  obtain ⟨y, hy, rfl⟩ := List.mem_map.1 hq
  exact hp (List.mem_map.2 ⟨y, hy, heq⟩)

theorem holds_middle (hold : ∀ t ∈ A ++ (p, st) :: B, t.2.Holds (job.load t.1))
    (hst : st'.Holds (job.load p)) : ∀ t ∈ A ++ (p, st') :: B, t.2.Holds (job.load t.1) := by
  intro t ht
  simp only [List.mem_append, List.mem_cons] at ht
  rcases ht with ht | rfl | ht
  · exact hold t (List.mem_append_left _ ht)
  · exact hst
  · exact hold t (List.mem_append_right _ (List.mem_cons_of_mem _ ht))

theorem invariant_middle (hinv : job.Invariant ⟨ix, A ++ (p, st) :: B⟩)
    (hst : st.outcome? = none) (hst' : st'.outcome? = none) (hholds : st'.Holds (job.load p)) :
    job.Invariant ⟨ix, A ++ (p, st') :: B⟩ where
  paths := by simpa using hinv.paths
  holds := holds_middle hinv.holds hholds
  documents := by
    rw [taskOutcomes_middle hst']
    simpa [taskOutcomes_middle hst] using hinv.documents
  failures := by
    rw [taskOutcomes_middle hst']
    simpa [taskOutcomes_middle hst] using hinv.failures

theorem invariant_clear (hfiles : (job.files.map Files.parts).Nodup)
    (hinv : job.Invariant ⟨ix, A ++ (p, .read r) :: B⟩) :
    job.Invariant ⟨ix.clearFor p r, A ++ (p, .cleared r) :: B⟩ := by
  -- no other task has the path, so the indexer has nothing under it to take out
  have hfresh := fresh_middle hfiles hinv.paths
  have hclear : ix.clearFor p r = ix := by
    refine Indexer.clearFor_of_fresh (fun x hx => hfresh _ ?_) (fun x hx => hfresh _ ?_) r
    · rw [hinv.documents, taskOutcomes_middle rfl] at hx
      exact path_of_mem_taskOutcomes (path_of_mem_readDocuments (path_mem_documentsOf hx))
    · have hx := hinv.failures.mem_iff.1 hx
      rw [taskOutcomes_middle rfl] at hx
      exact path_of_mem_taskOutcomes (path_of_mem_readFailures hx)
  rw [hclear]
  exact invariant_middle hinv rfl rfl (hinv.holds (p, .read r) (by simp))

theorem invariant_keep (hfiles : (job.files.map Files.parts).Nodup)
    (hinv : job.Invariant ⟨ix, A ++ (p, .cleared r) :: B⟩) :
    job.Invariant ⟨ix.keepFor p r, A ++ (p, .done r) :: B⟩ := by
  have hr : r = job.load p := hinv.holds (p, .cleared r) (by simp)
  have hdocs := hinv.documents
  have hfails := hinv.failures
  dsimp only at hdocs hfails
  rw [taskOutcomes_middle rfl, taskOutcomes_append] at hdocs hfails
  refine ⟨by simpa using hinv.paths, holds_middle hinv.holds hr, ?_, ?_⟩ <;>
    simp only [taskOutcomes_middle_done]
  · cases r with
    | ok d =>
      -- later files have other paths, so this document can be placed after theirs
      have hfresh := fresh_middle hfiles hinv.paths
      simp only [Indexer.keepFor, readDocuments_append, readDocuments_cons_ok]
      rw [hdocs, readDocuments_append]
      refine (documentsOf_insert _ _ (p, d) fun y hy => hfresh _ ?_).symm
      rw [List.map_append]
      exact List.mem_append_right _
        (path_of_mem_taskOutcomes (path_of_mem_readDocuments (List.mem_map_of_mem hy)))
    | error e => simpa [Indexer.keepFor] using hdocs
  · cases r with
    | ok d => simpa [Indexer.keepFor] using hfails
    | error e =>
      -- the failure joins at the end, whatever the place of its file
      simp only [Indexer.keepFor, readFailures_append, readFailures_cons_error]
      rw [readFailures_append] at hfails
      refine (hfails.append_right _).trans ?_
      rw [List.append_assoc]
      exact (List.perm_append_singleton _ _).append_left _

end Middle

theorem invariant_step (hfiles : (job.files.map Files.parts).Nodup) (hinv : job.Invariant s)
    (h : job.step s i = some s') : job.Invariant s' := by
  obtain ⟨ix, tasks⟩ := s
  obtain ⟨A, B, p, ⟨hs, -, rfl⟩ | ⟨hs, rfl⟩ | ⟨r, hs, rfl⟩ | ⟨r, hs, rfl⟩⟩ := step_cases h <;>
    dsimp only at hs <;> subst hs
  case inl => exact invariant_middle hinv rfl rfl trivial
  case inr.inl => exact invariant_middle hinv rfl rfl rfl
  case inr.inr.inl => exact invariant_clear hfiles hinv
  case inr.inr.inr => exact invariant_keep hfiles hinv

theorem invariant_run (hfiles : (job.files.map Files.parts).Nodup) :
    ∀ (σ : List Nat) (s s' : Loading), job.Invariant s → job.run σ s = some s' → job.Invariant s'
  | [], _, _, hinv, h => by
    cases h
    exact hinv
  | i :: σ, s, s', hinv, h => by
    obtain ⟨t, ht, hrun⟩ := Option.bind_eq_some_iff.1 h
    exact invariant_run hfiles σ t s' (invariant_step hfiles hinv ht) hrun

/-! ### Finished runs -/

theorem taskOutcomes_map_done (job : LoadJob) :
    taskOutcomes (job.files.map fun q => (q, .done (job.load q))) = job.outcomes := by
  -- a task that is done has the outcome it holds
  rw [taskOutcomes, outcomes, List.filterMap_map]
  exact congrFun List.filterMap_eq_map _

theorem Invariant.tasks_of_finished (hinv : job.Invariant s) (hfin : s.finished = true) :
    s.tasks = job.files.map fun q => (q, .done (job.load q)) := by
  rw [← hinv.paths, List.map_map]
  refine (List.map_id _).symm.trans (List.map_congr_left fun t ht => ?_)
  have hdone := List.all_eq_true.1 hfin t ht
  have hholds := hinv.holds t ht
  obtain ⟨q, st⟩ := t
  cases st with
  | done r =>
    obtain rfl : r = job.load q := hholds
    rfl
  | _ => simp [TaskStage.outcome?] at hdone

theorem loaded_map_done (job : LoadJob) (ix : Indexer) :
    Loading.loaded ⟨ix, job.files.map fun q => (q, .done (job.load q))⟩ = job.sequential.1 := by
  simp only [Loading.loaded, sequential, outcomes, List.countP_map, List.filter_map,
    List.length_map, ← List.countP_eq_length_filter]
  refine List.countP_congr fun q _ => ?_
  simp only [Function.comp_apply]
  cases job.load q <;> simp [TaskStage.loadedFile, Except.toBool]

/-- A run that finishes has the documents and the number of files read that reading the files
one after another gives, and the same failures in some order. -/
theorem run_agrees_with_sequential (hfiles : (job.files.map Files.parts).Nodup) {σ : List Nat}
    (h : job.run σ job.start = some s) (hfin : s.finished = true) :
    s.indexer.documents = job.sequential.2.documents ∧ s.loaded = job.sequential.1 ∧
      s.indexer.failures.Perm job.sequential.2.failures := by
  have hinv := invariant_run hfiles σ _ _ (invariant_start job) h
  have htasks := hinv.tasks_of_finished hfin
  have houts : taskOutcomes s.tasks = job.outcomes := by rw [htasks, taskOutcomes_map_done]
  have hseq := job.sequential_indexer hfiles
  refine ⟨?_, ?_, ?_⟩
  · rw [hinv.documents, houts, hseq]
    rfl
  · obtain ⟨ix, tasks⟩ := s
    dsimp only at htasks
    subst htasks
    exact loaded_map_done job ix
  · rw [hseq, ← houts]
    exact hinv.failures

/-! ### Reading one file after another -/

theorem run_oneByOne_from (hp : 0 < job.permits) (F G : List String) (ix : Indexer) :
    job.run ((List.range' F.length G.length).flatMap fun i => [i, i, i, i])
        ⟨ix, F.map (fun q => (q, .done (job.load q))) ++ G.map (·, .waiting)⟩ =
      some ⟨(G.map fun q => (q, job.load q)).foldl (fun ix x => ix.record x.1 x.2) ix,
        (F ++ G).map fun q => (q, .done (job.load q))⟩ := by
  induction G generalizing F ix with
  | nil => simp [run]
  | cons p G ih =>
    -- the tasks before are done and those after are waiting, so no permit is held
    have hfree : Loading.held
        ⟨ix, F.map (fun q => (q, .done (job.load q))) ++ (p, .waiting) :: G.map (·, .waiting)⟩ <
          job.permits := by
      simpa [Loading.held, Function.comp_def, TaskStage.holdsPermit] using hp
    have hlen : (F.map fun q => (q, TaskStage.done (job.load q))).length = F.length :=
      List.length_map _
    rw [List.length_cons, List.range'_succ, List.flatMap_cons, List.map_cons]
    simp only [List.cons_append, List.nil_append, run, ← hlen, step_waiting job ix _ _ p hfree,
      Option.bind_some, step_reading, step_read, step_cleared]
    rw [← Indexer.record_eq_keepFor_clearFor, hlen]
    have := ih (F ++ [p]) (ix.record p (job.load p))
    simp only [List.length_append, List.length_singleton, List.map_append, List.map_cons,
      List.map_nil, List.append_assoc, List.singleton_append] at this
    simpa using this

theorem run_oneByOne (hp : 0 < job.permits) :
    job.run (oneByOne job.files.length) job.start =
      some ⟨job.sequential.2, job.files.map fun q => (q, .done (job.load q))⟩ := by
  have := run_oneByOne_from hp [] job.files {}
  simpa [oneByOne, List.range_eq_range', start, outcomes, sequential] using this

/-- Reading the files of a workspace at once, no two of them with the same names: reading them
one after another is one schedule, which finishes when there is a permit, and every schedule
that finishes, whatever the number of permits, ends with the documents and the number of files
read of that schedule, and with its failures in some order. -/
theorem interleavings_agree_up_to_failure_order (job : LoadJob)
    (hfiles : (job.files.map Files.names).Nodup) :
    (0 < job.permits → ∃ s, job.run (oneByOne job.files.length) job.start = some s ∧
      s.finished = true ∧ s.indexer = job.sequential.2 ∧ s.loaded = job.sequential.1) ∧
    ∀ σ s, job.run σ job.start = some s → s.finished = true →
      s.indexer.documents = job.sequential.2.documents ∧ s.loaded = job.sequential.1 ∧
        s.indexer.failures.Perm job.sequential.2.failures := by
  refine ⟨fun hp => ⟨_, run_oneByOne hp, ?_, rfl, loaded_map_done job _⟩,
    fun σ s h hfin => run_agrees_with_sequential (Files.nodup_parts_of_nodup_names hfiles) h hfin⟩
  simp [Loading.finished, TaskStage.outcome?]

/-- One file that cannot be read, read with one permit. -/
theorem interleavings_agree_one_failure :
    let job : LoadJob := ⟨["/w/a_ru.ts"], fun p => .error (.unreadable p .notText), 1⟩
    (job.files.map Files.names).Nodup ∧
      ∃ s, job.run [0, 0, 0, 0] job.start = some s ∧ s.finished = true ∧ s.loaded = 0 ∧
        s.indexer.failures.Perm job.sequential.2.failures := by
  intro job
  have hfiles : (job.files.map Files.names).Nodup := List.nodup_cons.2 ⟨List.not_mem_nil, List.nodup_nil⟩
  obtain ⟨-, hall⟩ := interleavings_agree_up_to_failure_order job hfiles
  obtain ⟨-, hloaded, hperm⟩ := hall [0, 0, 0, 0] _ rfl rfl
  exact ⟨hfiles, _, rfl, rfl, hloaded, hperm⟩

/-- Two files that both fail, read with two permits: both tasks read, and whichever records its
failure first has it listed first. -/
theorem failures_follow_finishing_order :
    let job : LoadJob :=
      ⟨["/w/a_ru.ts", "/w/b_ru.ts"], fun p => .error (.unreadable p .notText), 2⟩
    (job.run [0, 1, 0, 1, 0, 0, 1, 1] job.start).map
        (fun s => (s.finished, s.indexer.failures.map (·.path))) =
      some (true, ["/w/a_ru.ts", "/w/b_ru.ts"]) ∧
    (job.run [0, 1, 0, 1, 1, 1, 0, 0] job.start).map
        (fun s => (s.finished, s.indexer.failures.map (·.path))) =
      some (true, ["/w/b_ru.ts", "/w/a_ru.ts"]) := by
  decide

end LoadJob

end Phrasebook
