import LineCensus.Proofs.Files.Collected

/-!
# Further paths

What is collected for paths and further paths: the files of the former, and after them those files
of the latter that are not there already.  Which files are there is a matter of their absolute
paths, and so the order of the paths has no part in which absolute paths are collected.
-/

namespace LineCensus.FileTree

variable {t : FileTree} {o : WalkOptions} {accepts : Path → Bool}

/-! ## Files that are not there -/

/-- Whether no file that was found has the absolute path of this one. -/
def isNew (t : FileTree) (found : List Path) (q : Path) : Bool :=
  !found.any fun p => p.absolute t.cwd == q.absolute t.cwd

theorem isNew_iff {found : List Path} {q : Path} :
    t.isNew found q = true ↔ ∀ p ∈ found, p.absolute t.cwd ≠ q.absolute t.cwd := by
  simp [isNew]

theorem filter_isNew_self (t : FileTree) (found : List Path) :
    found.filter (t.isNew found) = [] := by
  rw [List.filter_eq_nil_iff]
  intro q hq hnew
  exact isNew_iff.mp hnew q hq rfl

theorem isNew_append (t : FileTree) (found more : List Path) (p : Path) :
    t.isNew (found ++ more.filter (t.isNew found)) p = (t.isNew found p && t.isNew more p) := by
  rw [Bool.eq_iff_iff, Bool.and_eq_true, isNew_iff, isNew_iff, isNew_iff, List.forall_mem_append]
  refine and_congr_right fun hfound => ?_
  constructor
  · intro hmore q hq habs
    have hnew : t.isNew found q = true := by
      rw [isNew_iff, habs]
      exact hfound
    exact hmore q (List.mem_filter.mpr ⟨hq, hnew⟩) habs
  · intro hmore q hq
    exact hmore q (List.mem_filter.mp hq).1

/-! ## One file after the other -/

theorem collectOne_eq (found : List Path) (p : Path) :
    t.collectOne accepts found p =
      if t.isNew found p && accepts p then found ++ [p] else found := by
  rw [collectOne, isNew]
  cases found.any fun q => q.absolute t.cwd == p.absolute t.cwd <;> cases accepts p <;> rfl

theorem collectOne_append (found more : List Path) (p : Path) :
    t.collectOne accepts (found ++ more.filter (t.isNew found)) p =
      found ++ (t.collectOne accepts more p).filter (t.isNew found) := by
  rw [collectOne_eq, collectOne_eq, isNew_append, Bool.and_assoc]
  cases hadded : t.isNew more p && accepts p with
  | false =>
    rw [Bool.and_false, if_neg Bool.false_ne_true, if_neg Bool.false_ne_true]
  | true =>
    rw [Bool.and_true, if_pos rfl, List.filter_append, ← List.append_assoc]
    by_cases hfound : t.isNew found p = true
    · rw [if_pos hfound, List.filter_cons_of_pos hfound, List.filter_nil]
    · rw [if_neg hfound, List.filter_cons_of_neg hfound, List.filter_nil, List.append_nil]

theorem foldl_collectOne_append (found met : List Path) :
    met.foldl (t.collectOne accepts) found =
      found ++ (met.foldl (t.collectOne accepts) []).filter (t.isNew found) := by
  induction met using List.reverseRecOn with
  | nil => exact (List.append_nil found).symm
  | append_singleton met p ih =>
    simp only [List.foldl_append, List.foldl_cons, List.foldl_nil]
    rw [ih, collectOne_append]

/-! ## Paths after paths -/

/-- What the further paths stand for is met after all that the first ones stand for. -/
theorem collect_append (t : FileTree) (o : WalkOptions) (accepts : Path → Bool)
    (paths more : List Path) :
    t.collect o accepts (paths ++ more) = (do
      let found ← t.collect o accepts paths
      let added ← t.collect o accepts more
      .ok (found ++ added.filter (t.isNew found))) := by
  rw [collect, List.foldlM_append]
  show t.collect o accepts paths >>= _ = t.collect o accepts paths >>= _
  congr 1
  funext found
  rw [collect, foldlM_collect, foldlM_collect]
  cases more.mapM (t.filesAt o) with
  | error e => rfl
  | ok met => exact congrArg Except.ok (foldl_collectOne_append found met.flatten)

theorem Collects.mem_absolute_iff {paths files : List Path} (h : t.Collects o accepts paths files)
    (place : Path) :
    place ∈ files.map (Path.absolute t.cwd) ↔
      ∃ q, t.Reaches o paths q ∧ accepts q = true ∧ q.absolute t.cwd = place := by
  rw [List.mem_map]
  constructor
  · rintro ⟨q, hq, habs⟩
    obtain ⟨hreached, haccepts⟩ := h.reached q hq
    exact ⟨q, hreached, haccepts, habs⟩
  · rintro ⟨q, hreached, haccepts, habs⟩
    obtain ⟨p, hp, hsame⟩ := h.covered q hreached haccepts
    exact ⟨p, hp, hsame.trans habs⟩

theorem collect_absolute_of_perm {paths₁ paths₂ files₁ : List Path}
    (hperm : paths₁.Perm paths₂) (h₁ : t.collect o accepts paths₁ = .ok files₁) :
    ∃ files₂, t.collect o accepts paths₂ = .ok files₂ ∧
      ∀ place, place ∈ files₂.map (Path.absolute t.cwd) ↔
        place ∈ files₁.map (Path.absolute t.cwd) := by
  have heach := exists_collect_iff.mp ⟨files₁, h₁⟩
  obtain ⟨files₂, h₂⟩ := exists_collect_iff.mpr fun p hp => heach p (hperm.mem_iff.mpr hp)
  refine ⟨files₂, h₂, fun place => ?_⟩
  rw [(collects_of_collect h₁).mem_absolute_iff, (collects_of_collect h₂).mem_absolute_iff]
  have hreaches : ∀ q, t.Reaches o paths₂ q ↔ t.Reaches o paths₁ q := fun q =>
    ⟨Reaches.of_perm hperm.symm, Reaches.of_perm hperm⟩
  simp only [hreaches]

/-- A path at which there is something stands for files, unless an ignore file cannot be used. -/
theorem missing_of_filesAt {p q : Path} (h : t.filesAt o p = .error (.missing q)) :
    t.has p = false := by
  rw [filesAt] at h
  rw [has]
  split at h
  · next hget => rw [hget]
  · next entries hget =>
    obtain ⟨e, -, he⟩ := Fallible.mapError_eq_error.mp h
    cases he
  · cases h

theorem missing_of_collect {paths : List Path} {q : Path}
    (h : t.collect o accepts paths = .error (.missing q)) : ∃ p ∈ paths, t.has p = false := by
  rw [collect, foldlM_collect, Fallible.map_eq_error] at h
  obtain ⟨p, hp, hfails⟩ := Fallible.exists_of_mapM_eq_error h
  exact ⟨p, hp, missing_of_filesAt hfails⟩

/-- Collecting for paths and further paths gives the files of the former, then those of the latter
whose absolute paths are not there.  So no absolute path is collected twice, paths that are given
again add nothing, and the order of the paths does not decide which absolute paths are collected. -/
theorem collect_joined (t : FileTree) (o : WalkOptions) (accepts : Path → Bool) :
    (∀ paths more, t.collect o accepts (paths ++ more) = (do
      let found ← t.collect o accepts paths
      let added ← t.collect o accepts more
      .ok (found ++ added.filter fun q =>
        q.absolute t.cwd ∉ found.map (Path.absolute t.cwd)))) ∧
    (∀ paths files, t.collect o accepts paths = .ok files →
      (files.map (Path.absolute t.cwd)).Nodup) ∧
    (∀ paths, t.collect o accepts (paths ++ paths) = t.collect o accepts paths) ∧
    (∀ paths₁ paths₂ files₁, paths₁.Perm paths₂ → t.collect o accepts paths₁ = .ok files₁ →
      ∃ files₂, t.collect o accepts paths₂ = .ok files₂ ∧
        ∀ place, place ∈ files₂.map (Path.absolute t.cwd) ↔
          place ∈ files₁.map (Path.absolute t.cwd)) ∧
    ∀ paths, (∀ p ∈ paths, t.has p = true) → ∀ q,
      t.collect o accepts paths ≠ .error (.missing q) := by
  refine ⟨fun paths more => ?_, fun paths files hfiles => ?_, fun paths => ?_,
    fun paths₁ paths₂ files₁ => collect_absolute_of_perm, fun paths hthere q hmissing => ?_⟩
  · have hnew : ∀ found : List Path, (fun q => decide (q.absolute t.cwd ∉
        found.map (Path.absolute t.cwd))) = t.isNew found := by
      intro found
      funext q
      rw [Bool.eq_iff_iff, decide_eq_true_iff, isNew_iff]
      simp
    simp only [hnew]
    exact collect_append t o accepts paths more
  · rw [List.Nodup, List.pairwise_map]
    exact (collects_of_collect hfiles).distinct
  · rw [collect_append]
    cases t.collect o accepts paths with
    | error e => rfl
    | ok files =>
      show Except.ok (files ++ files.filter (t.isNew files)) = .ok files
      rw [filter_isNew_self, List.append_nil]
  · obtain ⟨p, hp, hnot⟩ := missing_of_collect hmissing
    rw [hthere p hp] at hnot
    cases hnot

/-- A directory, then one around it and a file in that under a second spelling; the filter is
against the first spelling, which has no directory in front. -/
theorem collect_joined_overlapping :
    let t : FileTree := { root := [("a", .file []), ("sub", .directory [("b", .file [])])] }
    let accepts (p : Path) : Bool := !p.parent.parts.isEmpty
    let paths : List Path := [.ofString "sub"]
    let more : List Path := [.ofString ".", .ofString "sub/../a"]
    let files : List Path := [.ofString "sub/b", .ofString "sub/../a"]
    t.collect {} accepts paths = .ok [.ofString "sub/b"] ∧ t.collect {} accepts more = .ok files ∧
      t.collect {} accepts (paths ++ more) = .ok files ∧
      (files.map (Path.absolute t.cwd)).Nodup ∧
      t.collect {} accepts ((paths ++ more) ++ (paths ++ more)) = .ok files ∧
      (paths ++ more).Perm (more ++ paths) ∧
      (∃ found, t.collect {} accepts (more ++ paths) = .ok found ∧
        ∀ place, place ∈ found.map (Path.absolute t.cwd) ↔
          place ∈ files.map (Path.absolute t.cwd)) ∧
      (∀ p ∈ paths ++ more, t.has p = true) ∧
      ∀ q, t.collect {} accepts (paths ++ more) ≠ .error (.missing q) := by
  intro t accepts paths more files
  have hpaths : t.collect {} accepts paths = .ok [.ofString "sub/b"] := by cbv
  have hmore : t.collect {} accepts more = .ok files := by cbv
  have hthere : ∀ p ∈ paths ++ more, t.has p = true := by
    simp only [paths, more, List.cons_append, List.nil_append, List.forall_mem_cons]
    exact ⟨by cbv, by cbv, by cbv, List.forall_mem_nil _⟩
  have hperm : (paths ++ more).Perm (more ++ paths) := List.perm_append_comm
  obtain ⟨hjoined, hdistinct, htwice, hpermuted, hmissing⟩ := collect_joined t {} accepts
  have hall : t.collect {} accepts (paths ++ more) = .ok files := by
    rw [hjoined, hpaths, hmore]
    exact congrArg Except.ok (by decide)
  exact ⟨hpaths, hmore, hall, hdistinct _ _ hall, (htwice _).trans hall, hperm,
    hpermuted _ _ _ hperm hall, hthere, hmissing _ hthere⟩

end LineCensus.FileTree
