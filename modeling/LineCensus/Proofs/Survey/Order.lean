import LineCensus.Format
import LineCensus.Proofs.Survey.Entries
import LineCensus.Ranking

/-!
# The order of arrival

Where no file is met under two spellings of one absolute path, the order in which paths are given,
and files are met and counted, does not show in the outcome.
-/

namespace LineCensus.Survey

variable {s : Survey} {t : FileTree}

variable {files₁ files₂ : List Path}

theorem counts_iff_of_perm {counter : FileCounter} (hperm : files₁.Perm files₂) :
    counter.Counts t files₁ ↔ counter.Counts t files₂ := by
  simp only [FileCounter.Counts, hperm.mem_iff]

/-- The entries are a function of which files there are. -/
theorem kept_eq_of_perm (s : Survey) (counter : FileCounter) (t : FileTree)
    (hperm : files₁.Perm files₂) (htexts : files₁.Pairwise fun p q => p.text ≠ q.text) :
    s.kept (counter.counted t files₁) = s.kept (counter.counted t files₂) := by
  have hcounted : (counter.counted t files₁).Perm (counter.counted t files₂) := hperm.filterMap _
  have hsort := Sorting.mergeSort_eq_of_perm (Sorting.key_trans FileEntry.path)
    (Sorting.key_total FileEntry.path) hcounted ?_
  · rw [kept, kept, hsort]
  · intro a ha b hb hab hba
    rw [decide_eq_true_eq] at hab hba
    have hpaths := counter.nodup_paths_counted t htexts
    exact List.inj_on_of_nodup_map hpaths ha hb (String.le_antisymm hab hba)

/-- What comes of files, met in any order; which of several errors is found first is left open. -/
theorem census_eq_of_perm (s : Survey) (counter : FileCounter) (t : FileTree)
    (hperm : files₁.Perm files₂) (htexts : files₁.Pairwise fun p q => p.text ≠ q.text) :
    ((entriesOf counter t files₁).map fun counted => Census.ofEntries (s.kept counted)).toOption =
      ((entriesOf counter t files₂).map fun counted => Census.ofEntries (s.kept counted)).toOption := by
  apply Fallible.toOption_eq_of_ok_iff
  intro c
  simp only [Fallible.map_eq_ok, entriesOf_eq_ok]
  constructor
  · rintro ⟨_, ⟨hcounts, rfl⟩, rfl⟩
    exact ⟨_, ⟨(counts_iff_of_perm hperm).mp hcounts, rfl⟩,
      by rw [kept_eq_of_perm s counter t hperm htexts]⟩
  · rintro ⟨_, ⟨hcounts, rfl⟩, rfl⟩
    exact ⟨_, ⟨(counts_iff_of_perm hperm).mpr hcounts, rfl⟩,
      by rw [kept_eq_of_perm s counter t hperm htexts]⟩

/-- No two of the spellings that a survey may collect have one absolute path. -/
def SpellsOnce (s : Survey) (t : FileTree) (paths : List Path) : Prop :=
  t.SpellsOnce ⟨s.options.includeHidden, s.options.respectGitignore⟩ s.pathPatterns.admits paths

theorem take_of_perm {spelled₁ spelled₂ : List String} (ht : t.Proper)
    (hperm : spelled₁.Perm spelled₂) (honce : s.SpellsOnce t (spelled₁.map Path.ofString))
    {c : Census} (h : s.take t (spelled₁.map Path.ofString) = .ok c) :
    s.take t (spelled₂.map Path.ofString) = .ok c := by
  have hpaths := hperm.map Path.ofString
  obtain ⟨files₁, counter, hfiles₁, hcounter, hworkers, hcounts, rfl⟩ := take_eq_ok.mp h
  obtain ⟨files₂, hfiles₂⟩ : ∃ files₂, s.files t (spelled₂.map Path.ofString) = .ok files₂ := by
    rw [files, FileTree.exists_collect_iff]
    intro p hp
    exact FileTree.exists_collect_iff.mp ⟨files₁, hfiles₁⟩ p (hpaths.mem_iff.mpr hp)
  have hfiles : files₁.Perm files₂ := FileTree.Collects.perm hpaths honce
    (FileTree.collects_of_collect hfiles₁) (FileTree.collects_of_collect hfiles₂)
  rw [take_eq_ok]
  refine ⟨files₂, counter, hfiles₂, hcounter, ?_, (counts_iff_of_perm hfiles).mp hcounts, ?_⟩
  · rw [← hfiles.length_eq]
    exact hworkers
  · rw [kept_eq_of_perm s counter t hfiles (pairwise_text_files ht hfiles₁)]

/-- Paths in another order give the same outcome, and so the same report in every order and form,
unless there are two spellings of one absolute path to choose from.  Files that are met or counted
in another order do so in any case. -/
theorem take_eq_of_perm (s : Survey) {t : FileTree} (ht : t.Proper)
    {spelled₁ spelled₂ : List String} (hperm : spelled₁.Perm spelled₂)
    (honce : s.SpellsOnce t (spelled₁.map Path.ofString)) :
    let outcome₁ := (s.take t (spelled₁.map Path.ofString)).toOption
    let outcome₂ := (s.take t (spelled₂.map Path.ofString)).toOption
    outcome₁ = outcome₂ ∧
    (∀ key type layout, outcome₁.map (fun c => (c.ranked key).render type layout) =
      outcome₂.map fun c => (c.ranked key).render type layout) ∧
    ∀ counter collected files, s.files t (spelled₁.map Path.ofString) = .ok collected →
      collected.Perm files →
      ((entriesOf counter t collected).map fun counted =>
          Census.ofEntries (s.kept counted)).toOption =
        ((entriesOf counter t files).map fun counted =>
          Census.ofEntries (s.kept counted)).toOption := by
  intro outcome₁ outcome₂
  have houtcome : outcome₁ = outcome₂ := by
    apply Fallible.toOption_eq_of_ok_iff
    intro c
    have honce₂ := FileTree.SpellsOnce.of_perm (hperm.map Path.ofString) honce
    exact ⟨take_of_perm ht hperm honce, take_of_perm ht hperm.symm honce₂⟩
  refine ⟨houtcome, ?_, ?_⟩
  · intro key type layout
    rw [houtcome]
  · intro counter collected files hcollected hfiles
    exact census_eq_of_perm s counter t hfiles (pairwise_text_files ht hcollected)

/-- A directory and a file in it, which has the content of its neighbour. -/
theorem take_eq_of_perm_overlapping :
    let t := (({} : FileTree).insert (.ofString "d/b") (.file [0x61])).insert
      (.ofString "d/a") (.file [0x61])
    let s : Survey :=
      { options := { countUnknown := true, skipDuplicates := true }, encoder := List.length }
    let spelled₁ := ["d", "d/a"]
    let spelled₂ := ["d/a", "d"]
    t.Proper ∧ spelled₁.Perm spelled₂ ∧ s.SpellsOnce t (spelled₁.map Path.ofString) ∧
      ∃ c, (s.take t (spelled₁.map Path.ofString)).toOption = some c ∧
        (s.take t (spelled₂.map Path.ofString)).toOption = some c := by
  intro t s spelled₁ spelled₂
  have hcwd : ∀ name ∈ ([] : List String), IsComponent name := List.forall_mem_nil _
  have ht : t.Proper := by
    refine FileTree.proper_insert (p := .ofString "d/a") ?_ hcwd (Path.proper_ofString _) trivial
    exact FileTree.proper_insert (p := .ofString "d/b") (FileTree.proper_empty []) hcwd
      (Path.proper_ofString _) trivial
  have hperm : spelled₁.Perm spelled₂ := .swap _ _ []
  have hreached : ∀ p, t.Reaches {} (spelled₁.map Path.ofString) p →
      p = .ofString "d/a" ∨ p = .ofString "d/b" := by
    have hdirectory : t.filesAt {} (.ofString "d") =
      .ok [.ofString "d/a", .ofString "d/b"] := by cbv
    have hfile : t.filesAt {} (.ofString "d/a") = .ok [.ofString "d/a"] := by cbv
    intro p hp
    rw [List.map_cons, FileTree.reaches_cons hdirectory, List.map_singleton,
      FileTree.reaches_cons hfile] at hp
    simp only [List.mem_cons, List.not_mem_nil, FileTree.not_reaches_nil, or_false] at hp
    tauto
  have honce : s.SpellsOnce t (spelled₁.map Path.ofString) := by
    intro p q hp hq _ _ habs
    rcases hreached p hp with rfl | rfl <;> rcases hreached q hq with rfl | rfl
    · rfl
    · exact absurd habs (by decide)
    · exact absurd habs (by decide)
    · rfl
  have hfiles : s.files t (spelled₁.map Path.ofString) =
    .ok [.ofString "d/a", .ofString "d/b"] := by cbv
  let counter := s.counterFor ⟨[], [], []⟩
  have hread : ∀ text, text = "d/a" ∨ text = "d/b" → t.read (.ofString text) = .ok [0x61] := by
    rintro _ (rfl | rfl) <;> cbv
  have hgrammar : ∀ text, text = "d/a" ∨ text = "d/b" →
      counter.grammarAt t (.ofString text) = .ok (some fallbackGrammar) := by
    intro text htext
    rw [FileCounter.grammarAt_of_read (hread text htext)]
    obtain rfl | rfl := htext <;> decide
  have hcount : ∀ text, text = "d/a" ∨ text = "d/b" →
      ∃ found, counter.count t (.ofString text) = .ok found := fun text htext =>
    FileCounter.exists_count (by decide) (hgrammar text htext)
  have hcounts : counter.Counts t [.ofString "d/a", .ofString "d/b"] :=
    List.forall_mem_cons.mpr ⟨hcount _ (.inl rfl), List.forall_mem_singleton.mpr
      (hcount _ (.inr rfl))⟩
  have htake := take_eq_ok.mpr ⟨_, counter, hfiles, rfl, rfl, hcounts, rfl⟩
  have houtcome := (take_eq_of_perm s ht hperm honce).1
  rw [htake] at houtcome
  exact ⟨ht, hperm, honce, _, by rw [htake]; rfl, houtcome.symm⟩

/-- A link to a directory, and two spellings with one absolute path on either side of it: each of
them leads to a file of its own, and the one that is given first is counted. -/
theorem take_of_swapped_spellings :
    let t := ((({} : FileTree).insert (.ofString "d/f") (.file [0x61, 0x0a])).insert
      (.ofString "d/sub") (.directory [])).insert (.ofString "f") (.file [0x61, 0x0a, 0x62, 0x0a])
        |>.insert (.ofString "link") (.link "d/sub")
    let s : Survey := { options := { countUnknown := true }, encoder := List.length }
    let spelled₁ := ["link/../f", "f"]
    let spelled₂ := ["f", "link/../f"]
    spelled₁.Perm spelled₂ ∧ (∀ text ∈ spelled₁, t.has (.ofString text) = true) ∧
      (∀ p q, t.Reaches {} (spelled₁.map Path.ofString) p →
        t.Reaches {} (spelled₁.map Path.ofString) q →
          t.locate true p = t.locate true q → p = q) ∧
      (s.take t (spelled₁.map Path.ofString)).toOption ≠
        (s.take t (spelled₂.map Path.ofString)).toOption := by
  intro t s spelled₁ spelled₂
  have hlinked : t.filesAt {} (.ofString "link/../f") = .ok [.ofString "link/../f"] := by cbv
  have hplain : t.filesAt {} (.ofString "f") = .ok [.ofString "f"] := by cbv
  have hlocate₁ : t.locate true (.ofString "link/../f") = .ok ["f", "d"] := by cbv
  have hlocate₂ : t.locate true (.ofString "f") = .ok ["f"] := by cbv
  refine ⟨.swap _ _ [], ?_, ?_, ?_⟩
  · intro text htext
    simp only [spelled₁, List.mem_cons, List.not_mem_nil, or_false] at htext
    rcases htext with rfl | rfl
    · cbv
    · cbv
  · intro p q hp hq hlocate
    rw [List.map_cons, FileTree.reaches_cons hlinked, List.map_singleton,
      FileTree.reaches_cons hplain] at hp hq
    simp only [List.mem_singleton, FileTree.not_reaches_nil, or_false] at hp hq
    rcases hp with rfl | rfl <;> rcases hq with rfl | rfl
    · rfl
    · rw [hlocate₁, hlocate₂] at hlocate
      cases hlocate
    · rw [hlocate₁, hlocate₂] at hlocate
      cases hlocate
    · rfl
  · have hfiles₁ : s.files t (spelled₁.map Path.ofString) = .ok [.ofString "link/../f"] := by cbv
    have hfiles₂ : s.files t (spelled₂.map Path.ofString) = .ok [.ofString "f"] := by cbv
    let counter := s.counterFor ⟨[], [], []⟩
    have htotal : ∀ text content n, t.read (.ofString text) = .ok content →
        counter.grammarAt t (.ofString text) = .ok (some fallbackGrammar) →
        (entryOfContent (Path.ofString text).text fallbackGrammar counter.lineLimit content).map
          FileEntry.code = .ok n →
        counter.Counts t [.ofString text] ∧
          (Census.ofEntries (s.kept (counter.counted t [.ofString text]))).total.tally.code = n := by
      intro text content n hread hgrammar hcode
      obtain ⟨entry, hentry, rfl⟩ := Fallible.map_eq_ok.mp hcode
      have hcount := FileCounter.count_of_read hread hgrammar (Fallible.map_eq_ok.mpr ⟨_, hentry, rfl⟩)
      refine ⟨List.forall_mem_singleton.mpr ⟨_, hcount⟩, ?_⟩
      have hkept : s.kept (counter.counted t [.ofString text]) =
          [{ entry with
              contentHash := some (Digest.hex (Digest.sha256 content))
              tokens := counter.tokensIn content }] := by
        rw [FileCounter.counted, List.filterMap_cons, FileCounter.entryAt_eq_some.mpr hcount]
        exact List.mergeSort_singleton _
      rw [hkept, Census.ofEntries, (Totals.holds_ofList _).sumsUp.total.code, List.map_singleton,
        List.sum_singleton]
    have hread₁ : t.read (.ofString "link/../f") = .ok [0x61, 0x0a] := by cbv
    have hread₂ : t.read (.ofString "f") = .ok [0x61, 0x0a, 0x62, 0x0a] := by cbv
    obtain ⟨hcounts₁, hone⟩ := htotal _ _ 1 hread₁
      ((FileCounter.grammarAt_of_read hread₁).trans (by decide)) (by decide)
    obtain ⟨hcounts₂, htwo⟩ := htotal _ _ 2 hread₂
      ((FileCounter.grammarAt_of_read hread₂).trans (by decide)) (by decide)
    have htake₁ := take_eq_ok.mpr ⟨_, counter, hfiles₁, rfl, rfl, hcounts₁, rfl⟩
    have htake₂ := take_eq_ok.mpr ⟨_, counter, hfiles₂, rfl, rfl, hcounts₂, rfl⟩
    rw [htake₁, htake₂]
    intro heq
    rw [Option.some.inj heq, htwo] at hone
    exact absurd hone (by decide)

end LineCensus.Survey
