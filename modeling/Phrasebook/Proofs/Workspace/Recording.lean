import Phrasebook.Workspace.Tasks

/-! # Recording what the files of a workspace gave

Paths are ordered part by part, which is a total order: so placing two documents under
different paths gives the same list in either order, and the documents of a list of files are
those placed one after another, whatever the order in which the files came. When no two files
are the same path, recording them one after another leaves the
documents placed in the order of the files and the failures in the order of the files, and it
is what indexing a workspace computes from the files it matched.
-/

namespace Phrasebook

namespace Files

instance : Std.TransCmp PathPart.compare :=
  inferInstanceAs (Std.TransCmp (compareLex (compareOn PathPart.rank) (compareOn PathPart.text)))

instance : Std.LawfulEqCmp PathPart.compare where
  compare_self := Std.ReflCmp.compare_self
  eq_of_compare {a b} h := by
    -- parts of one rank and one text are equal: only names carry a text
    rw [PathPart.compare, compareLex_eq_eq] at h
    cases a <;> cases b <;> simp_all [compareOn, PathPart.rank, PathPart.text]

variable {p q r : String}

theorem comparePaths_gt_iff : comparePaths p q = .gt ↔ comparePaths q p = .lt := by
  unfold comparePaths
  exact Std.OrientedCmp.gt_iff_lt

theorem comparePaths_eq_iff : comparePaths p q = .eq ↔ parts p = parts q := by
  unfold comparePaths
  exact Std.LawfulEqCmp.compare_eq_iff_eq

theorem comparePaths_lt_trans (hpq : comparePaths p q = .lt) (hqr : comparePaths q r = .lt) :
    comparePaths p r = .lt := by
  unfold comparePaths at *
  exact Std.TransCmp.lt_trans hpq hqr

theorem samePath_eq_false_iff : samePath p q = false ↔ parts p ≠ parts q := by
  simp [samePath]

/-- Texts with the same parts have the same names. -/
theorem names_eq_of_parts_eq (h : parts p = parts q) : names p = names q := by
  rw [names, names, h]

/-- Paths with distinct names are distinct paths. -/
theorem nodup_parts_of_nodup_names {l : List String} (h : (l.map names).Nodup) : (l.map parts).Nodup :=
  List.pairwise_map.2 ((List.pairwise_map.1 h).imp fun hne heq => hne (names_eq_of_parts_eq heq))

end Files

variable {p q : String} {d e : Document}

/-! ### Placing documents -/

theorem placeDocument_comm_of_lt (h : Files.comparePaths p q = .lt) (D : List (String × Document)) :
    placeDocument p d (placeDocument q e D) = placeDocument q e (placeDocument p d D) := by
  have hqp : Files.comparePaths q p = .gt := Files.comparePaths_gt_iff.2 h
  induction D with
  | nil => simp only [placeDocument, h, hqp]
  | cons x rest ih =>
    obtain ⟨r, f⟩ := x
    rcases hqr : Files.comparePaths q r with _ | _ | _
    · -- q goes before r, so p does too
      have hpr := Files.comparePaths_lt_trans h hqr
      simp only [placeDocument, h, hqp, hqr, hpr]
    · -- q is the path of r, which keeps its text, and p goes before both
      have hpr : Files.comparePaths p r = .lt := by
        unfold Files.comparePaths at h ⊢
        rwa [← Files.comparePaths_eq_iff.1 hqr]
      simp only [placeDocument, hqp, hqr, hpr]
    · rcases hpr : Files.comparePaths p r with _ | _ | _ <;>
        simp only [placeDocument, hqp, hqr, hpr, ih]

/-- Documents under different paths can be placed in either order. -/
theorem placeDocument_comm (h : Files.parts p ≠ Files.parts q) (D : List (String × Document)) :
    placeDocument p d (placeDocument q e D) = placeDocument q e (placeDocument p d D) := by
  rcases hc : Files.comparePaths p q with _ | _ | _
  · exact placeDocument_comm_of_lt hc D
  · exact absurd (Files.comparePaths_eq_iff.1 hc) h
  · exact (placeDocument_comm_of_lt (Files.comparePaths_gt_iff.1 hc) D).symm

/-- A placed document stands under the path placed or under a path that was there. -/
theorem path_mem_placeDocument {x : String × Document} {D : List (String × Document)}
    (h : x ∈ placeDocument p d D) : x.1 = p ∨ x.1 ∈ D.map Prod.fst := by
  induction D with
  | nil =>
    simp only [placeDocument, List.mem_singleton] at h
    exact .inl (h ▸ rfl)
  | cons y rest ih =>
    obtain ⟨r, f⟩ := y
    simp only [placeDocument] at h
    split at h <;> simp only [List.mem_cons, List.map_cons] at h ⊢
    · rcases h with rfl | rfl | h
      · exact .inl rfl
      · exact .inr (.inl rfl)
      · exact .inr (.inr (List.mem_map_of_mem h))
    · rcases h with rfl | h
      · exact .inr (.inl rfl)
      · exact .inr (.inr (List.mem_map_of_mem h))
    · rcases h with rfl | h
      · exact .inr (.inl rfl)
      · exact (ih h).imp_right .inr

/-- The documents read from a list of files, placed one after another. -/
def documentsOf (l : List (String × Document)) : List (String × Document) :=
  l.foldl (fun D x => placeDocument x.1 x.2 D) []

/-- The documents of a list of files stand under paths of the list. -/
theorem path_mem_documentsOf {x : String × Document} {l : List (String × Document)}
    (h : x ∈ documentsOf l) : x.1 ∈ l.map Prod.fst := by
  suffices ∀ D, x ∈ l.foldl (fun D x => placeDocument x.1 x.2 D) D →
      x.1 ∈ D.map Prod.fst ∨ x.1 ∈ l.map Prod.fst from
    (this [] h).resolve_left List.not_mem_nil
  clear h
  induction l with
  | nil => exact fun D h => .inl (List.mem_map_of_mem h)
  | cons y rest ih =>
    intro D h
    rcases ih _ h with h | h
    · obtain ⟨z, hz, hzx⟩ := List.mem_map.1 h
      rcases path_mem_placeDocument hz with hp | hp
      · exact .inr (by rw [← hzx, hp]; exact List.mem_cons_self)
      · exact .inl (hzx ▸ hp)
    · exact .inr (List.mem_cons_of_mem _ h)

theorem foldl_placeDocument_comm (x : String × Document) (B : List (String × Document))
    (hB : ∀ y ∈ B, Files.parts y.1 ≠ Files.parts x.1) (D : List (String × Document)) :
    B.foldl (fun D y => placeDocument y.1 y.2 D) (placeDocument x.1 x.2 D) =
      placeDocument x.1 x.2 (B.foldl (fun D y => placeDocument y.1 y.2 D) D) := by
  induction B generalizing D with
  | nil => rfl
  | cons y rest ih =>
    simp only [List.foldl_cons]
    rw [placeDocument_comm (hB y List.mem_cons_self),
      ih (fun z hz => hB z (List.mem_cons_of_mem _ hz))]

theorem documentsOf_insert (A B : List (String × Document)) (x : String × Document)
    (hB : ∀ y ∈ B, Files.parts y.1 ≠ Files.parts x.1) :
    documentsOf (A ++ x :: B) = placeDocument x.1 x.2 (documentsOf (A ++ B)) := by
  simp only [documentsOf, List.foldl_append, List.foldl_cons]
  exact foldl_placeDocument_comm x B hB _

theorem documentsOf_append_singleton (A : List (String × Document)) (x : String × Document) :
    documentsOf (A ++ [x]) = placeDocument x.1 x.2 (documentsOf A) := by
  simp [documentsOf]

/-! ### What the files gave -/

section Outcomes

variable {l : List (String × Except IndexError Document)}

/-- The documents among what the files gave, under their paths. -/
def readDocuments (l : List (String × Except IndexError Document)) : List (String × Document) :=
  l.filterMap fun x => match x.2 with
    | .ok d => some (x.1, d)
    | .error _ => none

/-- The failures among what the files gave. -/
def readFailures (l : List (String × Except IndexError Document)) : List LoadFailure :=
  l.filterMap fun x => match x.2 with
    | .ok _ => none
    | .error e => some ⟨x.1, e.message⟩

@[simp] theorem readDocuments_nil : readDocuments [] = [] := rfl

@[simp] theorem readDocuments_append (l l' : List (String × Except IndexError Document)) :
    readDocuments (l ++ l') = readDocuments l ++ readDocuments l' :=
  List.filterMap_append

@[simp] theorem readDocuments_cons_ok :
    readDocuments ((p, .ok d) :: l) = (p, d) :: readDocuments l := rfl

@[simp] theorem readDocuments_cons_error {err : IndexError} :
    readDocuments ((p, .error err) :: l) = readDocuments l := rfl

@[simp] theorem readFailures_nil : readFailures [] = [] := rfl

@[simp] theorem readFailures_append (l l' : List (String × Except IndexError Document)) :
    readFailures (l ++ l') = readFailures l ++ readFailures l' :=
  List.filterMap_append

@[simp] theorem readFailures_cons_ok : readFailures ((p, .ok d) :: l) = readFailures l := rfl

@[simp] theorem readFailures_cons_error {err : IndexError} :
    readFailures ((p, .error err) :: l) = ⟨p, err.message⟩ :: readFailures l := rfl

theorem path_of_mem_readDocuments {q : String} (h : q ∈ (readDocuments l).map Prod.fst) :
    q ∈ l.map Prod.fst := by
  obtain ⟨x, hx, rfl⟩ := List.mem_map.1 h
  obtain ⟨⟨q, r⟩, hmem, hx⟩ := List.mem_filterMap.1 hx
  cases r with
  | ok d =>
    cases hx
    exact List.mem_map_of_mem hmem
  | error => cases hx

theorem path_of_mem_readFailures {x : LoadFailure} (h : x ∈ readFailures l) :
    x.path ∈ l.map Prod.fst := by
  obtain ⟨⟨q, r⟩, hmem, hx⟩ := List.mem_filterMap.1 h
  cases r with
  | ok => cases hx
  | error =>
    cases hx
    exact List.mem_map_of_mem hmem

/-- The indexer that has recorded what the files gave, one after another. -/
def indexerOf (l : List (String × Except IndexError Document)) : Indexer :=
  { documents := documentsOf (readDocuments l), failures := readFailures l }

end Outcomes

/-! ### Recording -/

namespace Indexer

variable {ix : Indexer}

theorem record_eq_keepFor_clearFor (ix : Indexer) (p : String) (r : Except IndexError Document) :
    ix.record p r = (ix.clearFor p r).keepFor p r := by
  cases r <;> rfl

theorem clearFor_of_fresh (hd : ∀ x ∈ ix.documents, Files.parts x.1 ≠ Files.parts p)
    (hf : ∀ x ∈ ix.failures, Files.parts x.path ≠ Files.parts p)
    (r : Except IndexError Document) : ix.clearFor p r = ix := by
  obtain ⟨D, F⟩ := ix
  cases r with
  | ok =>
    have hkeep : F.filter (fun f => !Files.samePath f.path p) = F :=
      List.filter_eq_self.2 fun x hx => by simpa [Files.samePath_eq_false_iff] using hf x hx
    simp only [clearFor, hkeep]
  | error =>
    have hkeep : D.filter (fun x => !Files.samePath x.1 p) = D :=
      List.filter_eq_self.2 fun x hx => by simpa [Files.samePath_eq_false_iff] using hd x hx
    simp only [clearFor, hkeep]

theorem clearFor_indexerOf {l : List (String × Except IndexError Document)}
    (hp : ∀ q ∈ l.map Prod.fst, Files.parts q ≠ Files.parts p) (r : Except IndexError Document) :
    (indexerOf l).clearFor p r = indexerOf l :=
  clearFor_of_fresh
    (fun _ hx => hp _ (path_of_mem_readDocuments (path_mem_documentsOf hx)))
    (fun _ hx => hp _ (path_of_mem_readFailures hx)) r

theorem record_indexerOf {l : List (String × Except IndexError Document)}
    (hp : ∀ q ∈ l.map Prod.fst, Files.parts q ≠ Files.parts p) (r : Except IndexError Document) :
    (indexerOf l).record p r = indexerOf (l ++ [(p, r)]) := by
  rw [record_eq_keepFor_clearFor, clearFor_indexerOf hp]
  cases r with
  | ok d => simp [keepFor, indexerOf, documentsOf_append_singleton]
  | error e => simp [keepFor, indexerOf]

end Indexer

theorem foldl_record_indexerOf (P Q : List (String × Except IndexError Document))
    (hd : ((P ++ Q).map fun x => Files.parts x.1).Nodup) :
    Q.foldl (fun ix x => ix.record x.1 x.2) (indexerOf P) = indexerOf (P ++ Q) := by
  induction Q generalizing P with
  | nil => simp
  | cons x rest ih =>
    have hx : ∀ q ∈ P.map Prod.fst, Files.parts q ≠ Files.parts x.1 := by
      simp only [List.map_append, List.map_cons, List.nodup_append, List.nodup_cons] at hd
      intro q hq heq
      obtain ⟨y, hy, rfl⟩ := List.mem_map.1 hq
      exact hd.2.2 _ (List.mem_map_of_mem hy) _ List.mem_cons_self heq
    rw [List.foldl_cons, Indexer.record_indexerOf hx, ih _ (by simpa using hd)]
    simp

theorem LoadJob.sequential_indexer (job : LoadJob) (hfiles : (job.files.map Files.parts).Nodup) :
    job.sequential.2 = indexerOf job.outcomes := by
  -- the empty indexer is the one of no files
  exact foldl_record_indexerOf [] job.outcomes
    (by simpa [LoadJob.outcomes, Function.comp_def] using hfiles)

/-- Indexing a workspace reads the catalog files it matched one after another. -/
theorem indexWorkspace_eq_sequential {t : Files.Tree} {root : String} {settings : Settings}
    {n : Nat} {ix : Indexer} (h : indexWorkspace t root settings = .ok (n, ix)) :
    ∃ m, FileMatcher.ofSettings settings = .ok m ∧ ∀ permits,
      (n, ix) = (⟨catalogFiles t m root, loadDocument t, permits⟩ : LoadJob).sequential := by
  -- the root is a directory, the settings give a matcher, and the readers can be counted
  cases hdir : t.isDirectory root
  · simp only [indexWorkspace, hdir, Bool.not_false, if_true] at h
    cases h
  cases hm : FileMatcher.ofSettings settings with
  | error e =>
    simp only [indexWorkspace, hdir, hm, Bool.not_true] at h
    cases h
  | ok m =>
    refine ⟨m, rfl, fun permits => ?_⟩
    cases hth : settings.threads.any (· > maxReaders)
    · simp only [indexWorkspace, hdir, hm, hth, Bool.not_true] at h
      cases h
      rfl
    · simp only [indexWorkspace, hdir, hm, hth, Bool.not_true, if_true] at h
      cases h

end Phrasebook
