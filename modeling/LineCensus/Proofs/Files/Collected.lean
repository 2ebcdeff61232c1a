import LineCensus.Proofs.Files.Names
import Mathlib.Data.List.Induction

/-!
# What is collected

Of the files that paths stand for, those that the filter accepts are collected, one for each
absolute path.  Which paths are given first decides between two spellings of one absolute path,
and nothing else.
-/

namespace LineCensus.FileTree

variable {t : FileTree} {o : WalkOptions} {accepts : Path → Bool}

def Reaches (t : FileTree) (o : WalkOptions) (paths : List Path) (q : Path) : Prop :=
  ∃ p ∈ paths, ∃ files, t.filesAt o p = .ok files ∧ q ∈ files

theorem Reaches.of_perm {paths₁ paths₂ : List Path} (hperm : paths₁.Perm paths₂) {q : Path}
    (h : t.Reaches o paths₁ q) : t.Reaches o paths₂ q := by
  obtain ⟨p, hp, hfiles⟩ := h
  exact ⟨p, hperm.mem_iff.mp hp, hfiles⟩

@[simp] theorem not_reaches_nil (q : Path) : ¬t.Reaches o [] q := by
  rintro ⟨p, ⟨⟩, -⟩

theorem reaches_cons {p : Path} {rest files : List Path} (h : t.filesAt o p = .ok files)
    {q : Path} : t.Reaches o (p :: rest) q ↔ q ∈ files ∨ t.Reaches o rest q := by
  constructor
  · rintro ⟨p', hp', files', hfiles', hq⟩
    rcases List.mem_cons.mp hp' with rfl | hp'
    · cases h.symm.trans hfiles'
      exact .inl hq
    · exact .inr ⟨p', hp', files', hfiles', hq⟩
  · rintro (hq | ⟨p', hp', hfiles'⟩)
    · exact ⟨p, List.mem_cons_self, files, h, hq⟩
    · exact ⟨p', List.mem_cons_of_mem p hp', hfiles'⟩

structure Gathers (t : FileTree) (accepts : Path → Bool) (met found : List Path) : Prop where
  distinct : found.Pairwise fun p q => p.absolute t.cwd ≠ q.absolute t.cwd
  met_accepted : ∀ q ∈ found, q ∈ met ∧ accepts q = true
  covered : ∀ q ∈ met, accepts q = true → ∃ p ∈ found, p.absolute t.cwd = q.absolute t.cwd

theorem Gathers.nil : t.Gathers accepts [] [] :=
  ⟨.nil, by simp, by simp⟩

theorem collectOne_cases (t : FileTree) (accepts : Path → Bool) (found : List Path) (p : Path) :
    t.collectOne accepts found p = found ∧
      (accepts p = true → ∃ q ∈ found, q.absolute t.cwd = p.absolute t.cwd) ∨
    t.collectOne accepts found p = found ++ [p] ∧ accepts p = true ∧
      ∀ q ∈ found, q.absolute t.cwd ≠ p.absolute t.cwd := by
  rw [FileTree.collectOne]
  split
  · next hpassed =>
    refine .inl ⟨rfl, fun haccepts => ?_⟩
    simpa [haccepts] using hpassed
  · next hadded =>
    refine .inr ⟨rfl, ?_⟩
    simpa [and_comm] using hadded

theorem Gathers.collectOne {met found : List Path} (h : t.Gathers accepts met found) (p : Path) :
    t.Gathers accepts (met ++ [p]) (t.collectOne accepts found p) := by
  have hkept : ∀ q ∈ found, q ∈ met ++ [p] ∧ accepts q = true := fun q hq =>
    ⟨List.mem_append_left [p] (h.met_accepted q hq).1, (h.met_accepted q hq).2⟩
  rcases collectOne_cases t accepts found p with ⟨hsame, hthere⟩ | ⟨hadded, haccepts, hnew⟩
  · rw [hsame]
    refine ⟨h.distinct, hkept, ?_⟩
    intro q hq hqaccepts
    rcases List.mem_append.mp hq with hq | hq
    · exact h.covered q hq hqaccepts
    · rw [List.mem_singleton.mp hq] at hqaccepts ⊢
      exact hthere hqaccepts
  · rw [hadded]
    refine ⟨?_, ?_, ?_⟩
    · rw [List.pairwise_append]
      refine ⟨h.distinct, List.pairwise_singleton _ _, ?_⟩
      intro q hq r hr
      rw [List.mem_singleton.mp hr]
      exact hnew q hq
    · intro q hq
      rcases List.mem_append.mp hq with hq | hq
      · exact hkept q hq
      · rw [List.mem_singleton.mp hq]
        exact ⟨by simp, haccepts⟩
    · intro q hq hqaccepts
      rcases List.mem_append.mp hq with hq | hq
      · obtain ⟨r, hr, heq⟩ := h.covered q hq hqaccepts
        exact ⟨r, List.mem_append_left [p] hr, heq⟩
      · exact ⟨p, by simp, by rw [List.mem_singleton.mp hq]⟩

theorem gathers_foldl (t : FileTree) (accepts : Path → Bool) (met : List Path) :
    t.Gathers accepts met (met.foldl (t.collectOne accepts) []) := by
  induction met using List.reverseRecOn with
  | nil => exact .nil
  | append_singleton met p ih =>
    rw [List.foldl_append]
    exact ih.collectOne p

theorem foldl_collectOne_of_distinct (accepts : Path → Bool) {met : List Path}
    (hdistinct : met.Pairwise fun p q => p.absolute t.cwd ≠ q.absolute t.cwd) :
    met.foldl (t.collectOne accepts) [] = met.filter accepts := by
  induction met using List.reverseRecOn with
  | nil => rfl
  | append_singleton met p ih =>
    obtain ⟨hmet, -, hnew⟩ := List.pairwise_append.mp hdistinct
    rw [List.foldl_append, ih hmet, List.filter_append, List.foldl_cons, List.foldl_nil]
    rcases collectOne_cases t accepts (met.filter accepts) p with
      ⟨hsame, hthere⟩ | ⟨hadded, haccepts, -⟩
    · have haccepts : ¬accepts p = true := by
        intro haccepts
        obtain ⟨q, hq, heq⟩ := hthere haccepts
        exact hnew q (List.mem_filter.mp hq).1 p (List.mem_singleton_self p) heq
      rw [hsame, List.filter_cons_of_neg haccepts, List.filter_nil, List.append_nil]
    · rw [hadded, List.filter_cons_of_pos haccepts, List.filter_nil]

theorem foldlM_collect (found : List Path) (paths : List Path) :
    paths.foldlM (fun found p => do
      let files ← t.filesAt o p
      .ok (files.foldl (t.collectOne accepts) found)) found =
      (paths.mapM (t.filesAt o)).map fun met => met.flatten.foldl (t.collectOne accepts) found := by
  induction paths generalizing found with
  | nil => rfl
  | cons p rest ih =>
    rw [List.foldlM_cons, List.mapM_cons]
    cases hfiles : t.filesAt o p with
    | error e => rfl
    | ok files =>
      refine (ih _).trans ?_
      cases hrest : rest.mapM (t.filesAt o) with
      | error e => rfl
      | ok met =>
        show Except.ok (List.foldl _ (List.foldl _ found files) met.flatten) =
          Except.ok (List.foldl _ found (files :: met).flatten)
        rw [List.flatten_cons, List.foldl_append]

theorem collect_of_distinct (accepts : Path → Bool) {paths : List Path} {met : List (List Path)}
    (hmet : paths.mapM (t.filesAt o) = .ok met)
    (hdistinct : met.flatten.Pairwise fun p q => p.absolute t.cwd ≠ q.absolute t.cwd) :
    t.collect o accepts paths = .ok (met.flatten.filter accepts) := by
  rw [collect, foldlM_collect, hmet, Except.map, foldl_collectOne_of_distinct accepts hdistinct]

theorem mem_flatten_iff_reaches {paths : List Path} {met : List (List Path)}
    (h : List.Forall₂ (fun p files => t.filesAt o p = .ok files) paths met) (q : Path) :
    q ∈ met.flatten ↔ t.Reaches o paths q := by
  induction h with
  | nil => simp [Reaches]
  | @cons p files paths met hp _ ih =>
    rw [List.flatten_cons, List.mem_append, ih, reaches_cons hp]

/-- The files are those that the paths stand for and the filter accepts, by one of their spellings
for each absolute path. -/
structure Collects (t : FileTree) (o : WalkOptions) (accepts : Path → Bool)
    (paths files : List Path) : Prop where
  distinct : files.Pairwise fun p q => p.absolute t.cwd ≠ q.absolute t.cwd
  reached : ∀ q ∈ files, t.Reaches o paths q ∧ accepts q = true
  covered : ∀ q, t.Reaches o paths q → accepts q = true →
    ∃ p ∈ files, p.absolute t.cwd = q.absolute t.cwd

theorem collects_of_collect {paths files : List Path} (h : t.collect o accepts paths = .ok files) :
    t.Collects o accepts paths files := by
  rw [collect, foldlM_collect, Fallible.map_eq_ok] at h
  obtain ⟨met, hmet, rfl⟩ := h
  have hreaches := mem_flatten_iff_reaches (Fallible.mapM_eq_ok.mp hmet)
  have hgathers := gathers_foldl t accepts met.flatten
  refine ⟨hgathers.distinct, ?_, ?_⟩
  · intro q hq
    rw [← hreaches]
    exact hgathers.met_accepted q hq
  · intro q hq
    rw [← hreaches] at hq
    exact hgathers.covered q hq

/-- Collecting succeeds if it does for each path alone. -/
theorem exists_collect_iff {paths : List Path} :
    (∃ files, t.collect o accepts paths = .ok files) ↔
      ∀ p ∈ paths, ∃ files, t.filesAt o p = .ok files := by
  rw [← Fallible.exists_mapM_eq_ok]
  simp only [collect, foldlM_collect, Fallible.map_eq_ok]
  constructor
  · rintro ⟨_, met, hmet, -⟩
    exact ⟨met, hmet⟩
  · rintro ⟨met, hmet⟩
    exact ⟨_, met, hmet, rfl⟩

/-- No two of the spellings that are reached and accepted have one absolute path. -/
def SpellsOnce (t : FileTree) (o : WalkOptions) (accepts : Path → Bool) (paths : List Path) :
    Prop :=
  ∀ p q, t.Reaches o paths p → t.Reaches o paths q → accepts p = true → accepts q = true →
    p.absolute t.cwd = q.absolute t.cwd → p = q

theorem SpellsOnce.of_perm {paths₁ paths₂ : List Path} (hperm : paths₁.Perm paths₂)
    (h : t.SpellsOnce o accepts paths₁) : t.SpellsOnce o accepts paths₂ :=
  fun p q hp hq => h p q (hp.of_perm hperm.symm) (hq.of_perm hperm.symm)

theorem Collects.subset {paths₁ paths₂ files₁ files₂ : List Path} (hperm : paths₁.Perm paths₂)
    (honce : t.SpellsOnce o accepts paths₂) (h₁ : t.Collects o accepts paths₁ files₁)
    (h₂ : t.Collects o accepts paths₂ files₂) : files₁ ⊆ files₂ := by
  intro q hq
  obtain ⟨hreached, hacceptsq⟩ := h₁.reached q hq
  have hreached : t.Reaches o paths₂ q := hreached.of_perm hperm
  obtain ⟨p, hp, habs⟩ := h₂.covered q hreached hacceptsq
  obtain ⟨hreachedp, hacceptsp⟩ := h₂.reached p hp
  rw [← honce p q hreachedp hreached hacceptsp hacceptsq habs]
  exact hp

/-- Without a choice between spellings, the order of the paths shows only in the order of the
files. -/
theorem Collects.perm {paths₁ paths₂ files₁ files₂ : List Path} (hperm : paths₁.Perm paths₂)
    (honce : t.SpellsOnce o accepts paths₁) (h₁ : t.Collects o accepts paths₁ files₁)
    (h₂ : t.Collects o accepts paths₂ files₂) : files₁.Perm files₂ := by
  have hnodup : ∀ {paths files : List Path}, t.Collects o accepts paths files → files.Nodup := by
    intro paths files h
    refine h.distinct.imp ?_
    rintro p q hne rfl
    exact hne rfl
  rw [List.perm_ext_iff_of_nodup (hnodup h₁) (hnodup h₂)]
  intro q
  constructor
  · exact fun hq => Collects.subset hperm (honce.of_perm hperm) h₁ h₂ hq
  · exact fun hq => Collects.subset hperm.symm honce h₂ h₁ hq

theorem Collects.proper {paths files : List Path} (h : t.Collects o accepts paths files)
    (ht : t.Proper) (hpaths : ∀ p ∈ paths, p.Proper) : ∀ q ∈ files, q.Proper := by
  intro q hq
  obtain ⟨⟨p, hp, found, hfound, hq⟩, -⟩ := h.reached q hq
  exact proper_of_mem_filesAt ht (hpaths p hp) hfound q hq

theorem Collects.pairwise_text_ne {paths files : List Path}
    (h : t.Collects o accepts paths files) (ht : t.Proper) (hpaths : ∀ p ∈ paths, p.Proper) :
    files.Pairwise fun p q => p.text ≠ q.text := by
  have hproper := h.proper ht hpaths
  refine h.distinct.imp_of_mem ?_
  intro p q hp hq hne htext
  exact hne (by rw [Path.text_injective (hproper p hp) (hproper q hq) htext])

end LineCensus.FileTree
