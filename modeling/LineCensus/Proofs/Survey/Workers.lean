import LineCensus.Proofs.CommandLine.Plan
import LineCensus.Proofs.Survey.Entries

/-!
# Work that is shared out

The files of a large survey are cut into blocks, and workers count the blocks.  These come back in
any order; the entries are put together in the order of the blocks, so that nothing shows of the
workers.  A number of workers that is not above zero does no harm to a small survey, and leaves a
large one without an outcome.
-/

namespace LineCensus

/-- Workers; what is known of them is in which order the blocks come back, so many as there are. -/
structure Pool where
  finished : Nat → List Nat
  perm : ∀ blocks, (finished blocks).Perm (List.range blocks)

namespace Pool

variable {ε α β : Type}

def blockSize : Nat := 16

def block (xs : List α) (i : Nat) : List α :=
  (xs.drop (blockSize * i)).take blockSize

def blocks (xs : List α) : Nat :=
  (xs.length + (blockSize - 1)) / blockSize

/-- The results of the blocks, as they come back; a block fails by the first of its items that
does. -/
def results (pool : Pool) (f : α → Except ε β) (xs : List α) : List (Nat × Except ε (List β)) :=
  (pool.finished (blocks xs)).map fun i => (i, (block xs i).mapM f)

def mapM (pool : Pool) (f : α → Except ε β) (xs : List α) : Except ε (List β) :=
  ((List.range (blocks xs)).mapM fun i => ((pool.results f xs).lookup i).getD (.ok [])).map
    List.flatten

theorem flatMap_block (xs : List α) (n : Nat) :
    (List.range n).flatMap (block xs) = xs.take (blockSize * n) := by
  induction n with
  | zero => rfl
  | succ n ih =>
    rw [Nat.mul_succ, List.take_add, ← ih, List.range_succ, List.flatMap_append]
    simp [block]

theorem length_le_blocks (xs : List α) : xs.length ≤ blockSize * blocks xs := by
  have hmod := Nat.mod_add_div (xs.length + (blockSize - 1)) blockSize
  have hlt := Nat.mod_lt (xs.length + (blockSize - 1)) (show blockSize > 0 by decide)
  rw [← blocks] at hmod
  omega

/-- The order in which the blocks come back does not show. -/
theorem mapM_eq (pool : Pool) (f : α → Except ε β) (xs : List α) : pool.mapM f xs = xs.mapM f := by
  have hresult : ∀ i ∈ List.range (blocks xs),
      ((pool.results f xs).lookup i).getD (.ok []) = (block xs i).mapM f := by
    intro i hi
    have hthere : i ∈ pool.finished (blocks xs) := (pool.perm _).mem_iff.mpr hi
    rw [results, List.lookup_graph _ hthere]
    rfl
  calc pool.mapM f xs
      = ((List.range (blocks xs)).mapM fun i => (block xs i).mapM f).map List.flatten := by
        rw [mapM, Fallible.mapM_congr hresult]
    _ = ((List.range (blocks xs)).flatMap (block xs)).mapM f := Fallible.map_flatten_mapM
    _ = (xs.take (blockSize * blocks xs)).mapM f := by rw [flatMap_block]
    _ = xs.mapM f := by rw [List.take_of_length_le (length_le_blocks xs)]

end Pool

namespace Survey

variable {s : Survey} {t : FileTree} {paths : List Path}

/-- What becomes of each file: one after the other where they are few or one worker is enough, or
by the blocks of a pool, which some worker has to do. -/
def counts (s : Survey) (pool : Pool) (counter : FileCounter) (t : FileTree) (files : List Path) :
    Except SurveyError (List (Option FileEntry)) :=
  if files.length < sharedFrom || s.options.jobs == some 1 || s.watched then
    (files.mapM (counter.count t)).mapError .counting
  else if s.options.jobs.all (0 < ·) then
    (pool.mapM (counter.count t) files).mapError .counting
  else .error .noWorkers

def takeSharing (s : Survey) (pool : Pool) (t : FileTree) (paths : List Path) :
    Except SurveyError Census := do
  let files ← (s.files t paths).mapError .collecting
  let counter ← s.counter.mapError .choosing
  let found ← s.counts pool counter t files
  .ok (Census.ofEntries (s.kept found.reduceOption))

theorem counts_eq (s : Survey) (pool : Pool) (counter : FileCounter) (t : FileTree)
    (files : List Path) :
    s.counts pool counter t files =
      if s.hasWorkers files.length then (files.mapM (counter.count t)).mapError .counting
      else .error .noWorkers := by
  rw [counts, hasWorkers]
  by_cases hsmall : files.length < sharedFrom
  · simp [hsmall]
  by_cases hwatched : s.watched = true
  · simp [hwatched]
  by_cases hone : s.options.jobs = some 1
  · simp [hone]
  simp [hsmall, hwatched, hone, Pool.mapM_eq]

/-- A survey comes out the same with every pool. -/
theorem takeSharing_eq_take (s : Survey) (pool : Pool) (t : FileTree) (paths : List Path) :
    s.takeSharing pool t paths = s.take t paths := by
  rw [takeSharing, take]
  congr 1
  funext files
  congr 1
  funext counter
  rw [counts_eq]
  split
  · rw [entriesOf]
    cases files.mapM (counter.count t) <;> rfl
  · rfl

/-! ## The number of workers -/

def withJobs (s : Survey) (jobs : Option Int) : Survey :=
  { s with options := { s.options with jobs } }

/-- The files are so many that they are shared out, and there is nobody to count them. -/
def Unstaffed (s : Survey) (t : FileTree) (paths : List Path) : Prop :=
  ∃ files counter, s.files t paths = .ok files ∧ s.counter = .ok counter ∧
    sharedFrom ≤ files.length ∧ s.watched = false ∧ ∃ n, s.options.jobs = some n ∧ n ≤ 0

theorem hasWorkers_eq_false_iff {files : Nat} :
    s.hasWorkers files = false ↔
      sharedFrom ≤ files ∧ s.watched = false ∧ ∃ n, s.options.jobs = some n ∧ n ≤ 0 := by
  rw [hasWorkers]
  cases s.options.jobs <;> simp [and_assoc]

theorem hasWorkers_withJobs_one (s : Survey) (n : Nat) :
    (s.withJobs (some 1)).hasWorkers n = true := by
  simp [hasWorkers, withJobs]

theorem take_withJobs_of_staffed (hstaffed : ¬s.Unstaffed t paths) :
    s.take t paths = (s.withJobs (some 1)).take t paths := by
  have hfiles : (s.withJobs (some 1)).files t paths = s.files t paths := rfl
  have hcounter : (s.withJobs (some 1)).counter = s.counter := rfl
  rw [take, take, hfiles, hcounter]
  cases hfiles : s.files t paths with
  | error e => rfl
  | ok files =>
    cases hcounter : s.counter with
    | error fault => rfl
    | ok counter =>
      have hworkers : s.hasWorkers files.length = true := by
        by_contra hnone
        rw [Bool.not_eq_true, hasWorkers_eq_false_iff] at hnone
        exact hstaffed ⟨files, counter, hfiles, hcounter, hnone⟩
      show (if s.hasWorkers files.length then _ else _) =
        if (s.withJobs (some 1)).hasWorkers files.length then _ else _
      rw [if_pos hworkers, if_pos (s.hasWorkers_withJobs_one _)]
      rfl

/-- Where there is nobody to count the files, one worker counts them, up to one that cannot be. -/
theorem take_withJobs_of_unstaffed (hunstaffed : s.Unstaffed t paths) :
    s.take t paths = .error .noWorkers ∧ ∀ e, (s.withJobs (some 1)).take t paths = .error e →
      ∃ cause, e = .counting cause := by
  obtain ⟨files, counter, hfiles, hcounter, hnone⟩ := hunstaffed
  have hworkers : s.hasWorkers files.length = false := hasWorkers_eq_false_iff.mpr hnone
  constructor
  · exact take_eq_error.mpr
      (.inr ⟨files, hfiles, .inr ⟨counter, hcounter, .inl ⟨hworkers, rfl⟩⟩⟩)
  · intro e he
    obtain ⟨_, hfails, -⟩ | ⟨_, -, ⟨_, hfails, -⟩ | ⟨_, -, ⟨hnone, -⟩ | ⟨-, cause, -, rfl⟩⟩⟩ :=
      take_eq_error.mp he
    · cases hfiles.symm.trans hfails
    · cases hcounter.symm.trans hfails
    · cases (s.hasWorkers_withJobs_one _).symm.trans hnone
    · exact ⟨cause, rfl⟩

theorem staffed_of_plan {u : CommandLine.Services} {args : List String} {r : CommandLine.CountRequest}
    (hr : CommandLine.Request.ofArgs t args = .ok (.count r)) (hjobs : r.jobs ≠ none)
    {plan : CommandLine.Plan} (hplan : CommandLine.plan u t r = .ok plan) (paths : List Path) :
    ¬plan.survey.Unstaffed t paths := by
  rintro ⟨-, -, -, -, -, -, n, hn, hle⟩
  obtain ⟨m, hm⟩ := Option.ne_none_iff_exists'.mp hjobs
  have hpos := CommandLine.jobs_pos hr hm
  have hsame := CommandLine.jobs_of_plan hplan hm (by omega)
  rw [hn] at hsame
  cases hsame
  omega

/-- The number of workers does not show in the outcome, nor do the order in which they finish and
the size of the survey, unless the number is not above zero: then there is no outcome as soon as
the files are shared out, where one worker fails only by a file that cannot be counted.  Such a
number never comes from the command line. -/
theorem takeSharing_withJobs (s : Survey) (pool₁ pool₂ : Pool) (t : FileTree) (paths : List Path) :
    (¬s.Unstaffed t paths →
      s.takeSharing pool₁ t paths = (s.withJobs (some 1)).takeSharing pool₂ t paths) ∧
    (s.Unstaffed t paths → s.takeSharing pool₁ t paths = .error .noWorkers ∧
      ∀ e, (s.withJobs (some 1)).takeSharing pool₂ t paths = .error e →
        ∃ cause, e = .counting cause) ∧
    ∀ u args r plan, CommandLine.Request.ofArgs t args = .ok (.count r) → r.jobs ≠ none →
      CommandLine.plan u t r = .ok plan → ¬plan.survey.Unstaffed t r.paths := by
  simp only [takeSharing_eq_take]
  exact ⟨take_withJobs_of_staffed, take_withJobs_of_unstaffed,
    fun _ _ r _ hr hjobs hplan => staffed_of_plan hr hjobs hplan r.paths⟩

/-! ## Fifty files -/

private def crowd : FileTree :=
  { root := (List.range 50).map fun i => (String.singleton (Char.ofNat (65 + i)), .file []) }

private def crowdFiles : List Path :=
  crowd.root.map fun entry => .ofString entry.1

private theorem collect_crowd (s : Survey) (hadmits : s.pathPatterns = {})
    (hoptions : s.options.includeHidden = false ∧ s.options.respectGitignore = true) :
    s.files crowd [.ofString "."] = .ok crowdFiles := by
  have hfiles : crowd.filesAt {} (.ofString ".") = .ok crowdFiles := by cbv
  have hdistinct : crowdFiles.Pairwise fun p q =>
      p.absolute crowd.cwd ≠ q.absolute crowd.cwd := by
    decide
  have hmet : [Path.ofString "."].mapM (crowd.filesAt {}) = .ok [crowdFiles] := by
    rw [List.mapM_cons, hfiles]
    rfl
  have hcollect := FileTree.collect_of_distinct (PathPatterns.admits {}) hmet
    (by simpa using hdistinct)
  have hall : crowdFiles.filter (PathPatterns.admits {}) = crowdFiles := by decide
  rw [files, hadmits, hoptions.1, hoptions.2, hcollect, List.flatten_singleton, hall]

private theorem read_crowd {name : String} (hname : name ∈ crowd.root.map Prod.fst) :
    crowd.read (.ofString name) = .ok [] := by
  have hproper : ∀ name ∈ crowd.root.map Prod.fst, name ≠ "" ∧ name ≠ "." ∧ name ≠ ".." := by
    decide
  have hspelled : ∀ name ∈ crowd.root.map Prod.fst, Path.ofString name = { parts := [name] } := by
    decide
  have hentry : FileNode.entry? crowd.root name = some (.file []) := by
    obtain ⟨entry, hentry, rfl⟩ := List.mem_map.mp hname
    have hthere : (crowd.root.find? (·.1 == entry.1)).isSome = true :=
      List.find?_isSome.mpr ⟨entry, hentry, beq_self_eq_true entry.1⟩
    obtain ⟨found, hfound⟩ := Option.isSome_iff_exists.mp hthere
    obtain ⟨_, -, rfl⟩ := List.mem_map.mp (List.mem_of_find?_eq_some hfound)
    rw [FileNode.entry?, hfound]
    rfl
  rw [hspelled name hname]
  exact FileTree.read_of_entry name rfl (hproper name hname) hentry

private def crowdSurvey (jobs : Int) : Survey where
  options := { jobs := some jobs }
  encoder := List.length

private theorem unstaffed_crowd : (crowdSurvey 0).Unstaffed crowd [.ofString "."] :=
  ⟨crowdFiles, (crowdSurvey 0).counterFor ⟨[], [], []⟩, collect_crowd _ rfl ⟨rfl, rfl⟩, rfl,
    by decide, rfl, 0, rfl, Int.le_refl 0⟩

private theorem take_crowd :
    ∃ c, ((crowdSurvey 0).withJobs (some 1)).take crowd [.ofString "."] = .ok c := by
  let counter := (crowdSurvey 0).counterFor ⟨[], [], []⟩
  have hcounts : counter.Counts crowd crowdFiles := by
    intro p hp
    obtain ⟨entry, hentry, rfl⟩ := List.mem_map.mp hp
    have hnone : ∀ name ∈ crowd.root.map Prod.fst,
        (counter.detector.languageOf (.ofString name) (some []) >>= counter.detector.checked) >>=
          counter.grammarFor (.ofString name) = .ok none := by
      decide
    have hname : entry.1 ∈ crowd.root.map Prod.fst := List.mem_map_of_mem hentry
    exact FileCounter.exists_count (by decide)
      ((FileCounter.grammarAt_of_read (read_crowd hname)).trans (hnone _ hname))
  exact ⟨_, take_eq_ok.mpr ⟨_, counter, collect_crowd _ rfl ⟨rfl, rfl⟩, rfl,
    hasWorkers_withJobs_one _ _, hcounts, rfl⟩⟩

/-- Fifty files are counted by two workers in any order, and not at all by none; and four workers
are asked for on the command line. -/
theorem takeSharing_withJobs_crowd :
    let t : FileTree :=
      { root := (List.range 50).map fun i => (String.singleton (Char.ofNat (65 + i)), .file []) }
    let paths := [Path.ofString "."]
    let ordered : Pool := ⟨List.range, fun _ => .refl _⟩
    let reversed : Pool := ⟨fun n => (List.range n).reverse, fun _ => List.reverse_perm _⟩
    let pair : Survey := { options := { jobs := some 2 }, encoder := List.length }
    let nobody : Survey := { options := { jobs := some 0 }, encoder := List.length }
    let u := CommandLine.Services.plain
    (¬pair.Unstaffed t paths ∧
      pair.takeSharing reversed t paths = (pair.withJobs (some 1)).takeSharing ordered t paths) ∧
    (nobody.Unstaffed t paths ∧ nobody.takeSharing reversed t paths = .error .noWorkers) ∧
    ∃ r plan, CommandLine.Request.ofArgs {} ["count", "-j", "4", "."] = .ok (.count r) ∧
      r.jobs ≠ none ∧ CommandLine.plan u {} r = .ok plan ∧ ¬plan.survey.Unstaffed {} r.paths := by
  intro t paths ordered reversed pair nobody u
  have hpair : ¬pair.Unstaffed t paths := by
    rintro ⟨-, -, -, -, -, -, n, hn, hle⟩
    cases hn
    exact absurd hle (by decide)
  have hnobody : nobody.Unstaffed t paths := unstaffed_crowd
  let r : CommandLine.CountRequest := { paths, jobs := some 4 }
  have hr : CommandLine.Request.ofArgs {} ["count", "-j", "4", "."] = .ok (.count r) := by cbv
  have hsettings : CommandLine.settingsFor u {} r = .ok [(.text "jobs", .int 4)] := by cbv
  let plan : CommandLine.Plan :=
    { survey := { options := { jobs := some 4 }, encoder := u.encoder }
      key := .code, type := .table, byFile := false }
  have hplan : CommandLine.plan u {} r = .ok plan := by
    rw [CommandLine.plan, hsettings]
    rfl
  have hequal := (takeSharing_withJobs pair reversed ordered t paths).1 hpair
  have hfails := ((takeSharing_withJobs nobody reversed ordered t paths).2.1 hnobody).1
  have hjobs : r.jobs ≠ none := Option.some_ne_none 4
  have hstaffed :=
    (takeSharing_withJobs pair ordered ordered {} paths).2.2 u _ r plan hr hjobs hplan
  exact ⟨⟨hpair, hequal⟩, ⟨hnobody, hfails⟩, r, plan, hr, hjobs, hplan, hstaffed⟩

/-- No worker is an option that is accepted, and fifty files then have no outcome, which they have
with one worker. -/
theorem takeSharing_without_workers :
    let t : FileTree :=
      { root := (List.range 50).map fun i => (String.singleton (Char.ofNat (65 + i)), .file []) }
    let pool : Pool := ⟨List.range, fun _ => .refl _⟩
    let s : Survey := { options := { jobs := some 0 }, encoder := List.length }
    Options.ofSection [(.text "jobs", .int 0)] = .ok s.options ∧
      s.takeSharing pool t [.ofString "."] = .error .noWorkers ∧
      ∃ c, (s.withJobs (some 1)).takeSharing pool t [.ofString "."] = .ok c := by
  intro t pool s
  refine ⟨rfl, ?_⟩
  rw [takeSharing_eq_take, takeSharing_eq_take]
  exact ⟨(take_withJobs_of_unstaffed unstaffed_crowd).1, take_crowd⟩

end Survey

end LineCensus
