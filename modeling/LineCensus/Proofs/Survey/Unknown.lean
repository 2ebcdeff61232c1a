import LineCensus.Proofs.Files.Counted
import LineCensus.Proofs.Survey.Entries

/-!
# Files of no known language

Files that no rule places can be counted under a name of their own.  A survey that does so lists
all that it lists otherwise, with one exception: where duplicates are skipped, the content of a
file may be met first in a file of no known language.  And it reads files that are not read
otherwise, which no limit that is too large allows.
-/

namespace LineCensus

theorem Repeats.mono {l₁ l₂ : List FileEntry} (hsub : l₁ ⊆ l₂) {r : FileEntry}
    (h : Repeats l₁ r) : Repeats l₂ r := by
  obtain ⟨q, hq, hrepeats⟩ := h
  exact ⟨q, hsub hq, hrepeats⟩

namespace FileCounter

variable {c : FileCounter} {t : FileTree} {p : Path} {files : List Path} {r : FileEntry}

/-- The same counter, with or without files of no known language. -/
def countingUnknown (c : FileCounter) (counts : Bool) : FileCounter :=
  { c with countUnknown := counts }

theorem grammar?_countingUnknown (c : FileCounter) (language : Value) :
    (c.countingUnknown true).grammar? language =
      ((c.countingUnknown false).grammar? language).map (·.or (some fallbackGrammar)) := by
  rw [grammar?, grammar?]
  cases language.isNothing with
  | true => rfl
  | false =>
    show (c.detector.registry.lookupValue language).map _ =
      ((c.detector.registry.lookupValue language).map _).map _
    rcases c.detector.registry.lookupValue language with fault | _ | g <;> rfl

theorem grammarFor_countingUnknown (c : FileCounter) (p : Path) (language : Value) :
    (c.countingUnknown true).grammarFor p language =
        (c.countingUnknown false).grammarFor p language ∨
      (c.countingUnknown false).grammarFor p language = .ok none ∧
        (c.countingUnknown true).grammarFor p language = .ok (some fallbackGrammar) := by
  rw [grammarFor, grammarFor, grammar?_countingUnknown]
  cases (c.countingUnknown false).grammar? language with
  | error fault => exact .inl rfl
  | ok found =>
    cases found with
    | some g => exact .inl rfl
    | none =>
      cases hadmits : (c.countingUnknown true).filter.all (·.admits p fallbackGrammar.name) with
      | true => exact .inr ⟨rfl, congrArg Except.ok (Option.filter_some_pos hadmits)⟩
      | false =>
        refine .inl (congrArg Except.ok ?_)
        exact Option.filter_some_neg hadmits

theorem grammarAt_countingUnknown (c : FileCounter) (t : FileTree) (p : Path) :
    (c.countingUnknown true).grammarAt t p = (c.countingUnknown false).grammarAt t p ∨
      (c.countingUnknown false).grammarAt t p = .ok none ∧
        (c.countingUnknown true).grammarAt t p = .ok (some fallbackGrammar) := by
  rw [grammarAt, grammarAt]
  cases hdetect : c.detector.detect t p (t.read p).toOption with
  | error fault =>
    refine .inl ?_
    show (c.detector.detect t p (t.read p).toOption >>= _) =
      c.detector.detect t p (t.read p).toOption >>= _
    rw [hdetect]
    rfl
  | ok language =>
    show (c.detector.detect t p (t.read p).toOption >>= _) =
        (c.detector.detect t p (t.read p).toOption >>= _) ∨
      (c.detector.detect t p (t.read p).toOption >>= _) = _ ∧
        (c.detector.detect t p (t.read p).toOption >>= _) = _
    rw [hdetect]
    exact c.grammarFor_countingUnknown p language

/-- What is counted without files of no known language is counted with them, and they are all that
is added. -/
theorem count_countingUnknown (c : FileCounter) (t : FileTree) (p : Path) :
    (c.countingUnknown true).count t p = (c.countingUnknown false).count t p ∨
      (c.countingUnknown false).count t p = .ok none ∧
        (c.countingUnknown true).grammarAt t p = .ok (some fallbackGrammar) := by
  obtain hsame | ⟨hnone, hunknown⟩ := c.grammarAt_countingUnknown t p
  · refine .inl ?_
    rw [count, count, hsame]
    rfl
  · exact .inr ⟨count_eq_none.mpr hnone, hunknown⟩

theorem counted_subset (c : FileCounter) (t : FileTree) (files : List Path) :
    (c.countingUnknown false).counted t files ⊆ (c.countingUnknown true).counted t files := by
  intro r hr
  obtain ⟨p, hp, hcount⟩ := mem_counted.mp hr
  obtain hsame | ⟨hnone, -⟩ := c.count_countingUnknown t p
  · exact mem_counted.mpr ⟨p, hp, hsame.trans hcount⟩
  · cases hnone.symm.trans hcount

theorem mem_counted_or_unknown (h : r ∈ (c.countingUnknown true).counted t files) :
    r ∈ (c.countingUnknown false).counted t files ∨ r.language = fallbackName := by
  obtain ⟨p, hp, hcount⟩ := mem_counted.mp h
  obtain hsame | ⟨-, hunknown⟩ := c.count_countingUnknown t p
  · exact .inl (mem_counted.mpr ⟨p, hp, hsame.symm.trans hcount⟩)
  · obtain ⟨g, hgrammar, hmeasure⟩ := count_eq_some.mp hcount
    cases hunknown.symm.trans hgrammar
    exact .inr (language_of_measure hmeasure)

def ReadsUnknown (c : FileCounter) (t : FileTree) (files : List Path) : Prop :=
  ∃ p ∈ files, (c.countingUnknown true).grammarAt t p = .ok (some fallbackGrammar) ∧
    ∃ content, t.read p = .ok content

theorem counts_countingUnknown_iff :
    (c.countingUnknown true).Counts t files ↔ (c.countingUnknown false).Counts t files ∧
      (c.lineLimit + 1 ≤ Line.largestRequest ∨ ¬c.ReadsUnknown t files) := by
  constructor
  · intro hcounts
    refine ⟨?_, ?_⟩
    · intro p hp
      obtain hsame | ⟨hnone, -⟩ := c.count_countingUnknown t p
      · rw [← hsame]
        exact hcounts p hp
      · exact ⟨none, hnone⟩
    · refine Decidable.or_iff_not_imp_left.mpr ?_
      rintro hlarge ⟨p, hp, hgrammar, content, hread⟩
      obtain ⟨found, hfound⟩ := hcounts p hp
      have herror := count_eq_error.mpr (.inr ⟨_, _, hgrammar, measure_of_oversized hlarge hread, rfl⟩)
      cases hfound.symm.trans herror
  · rintro ⟨hcounts, hfits⟩ p hp
    obtain hsame | ⟨-, hunknown⟩ := c.count_countingUnknown t p
    · rw [hsame]
      exact hcounts p hp
    · cases hread : t.read p with
      | error e => exact ⟨_, count_of_read_error hread hunknown⟩
      | ok content =>
        obtain hlimit | hnone := hfits
        · exact exists_count hlimit hunknown
        · exact absurd ⟨p, hp, hunknown, content, hread⟩ hnone

theorem entriesOf_eq_error_countingUnknown (hlimit : c.lineLimit + 1 ≤ Line.largestRequest)
    {e : CountError} :
    Survey.entriesOf (c.countingUnknown false) t files = .error e ↔
      Survey.entriesOf (c.countingUnknown true) t files = .error e := by
  have hcount : ∀ p, (c.countingUnknown false).count t p = .error e ↔
      (c.countingUnknown true).count t p = .error e := by
    intro p
    obtain hsame | ⟨hnone, hunknown⟩ := c.count_countingUnknown t p
    · rw [hsame]
    · obtain ⟨found, hfound⟩ := exists_count (c := c.countingUnknown true) hlimit hunknown
      rw [hnone, hfound]
      exact ⟨nofun, nofun⟩
  have hcounts : ∀ p, (∃ found, (c.countingUnknown false).count t p = .ok found) ↔
      ∃ found, (c.countingUnknown true).count t p = .ok found := by
    intro p
    have hone : (c.countingUnknown true).Counts t [p] ↔ _ := counts_countingUnknown_iff
    simpa [Counts, hlimit] using hone.symm
  simp only [Survey.entriesOf, Fallible.map_eq_error, Fallible.mapM_eq_error, hcount, hcounts]

end FileCounter

namespace Survey

variable {s : Survey} {counter : FileCounter} {t : FileTree} {files : List Path}

def withUnknown (s : Survey) (counts : Bool) : Survey :=
  { s with options := { s.options with countUnknown := counts } }

theorem counter_withUnknown (s : Survey) (counts : Bool) :
    (s.withUnknown counts).counter = s.counter.map fun counter => counter.countingUnknown counts := by
  show s.choice.map _ = (s.choice.map _).map _
  cases s.choice <;> rfl

def ReadsUnknown (s : Survey) (t : FileTree) (paths : List Path) : Prop :=
  ∃ files counter, s.files t paths = .ok files ∧ s.counter = .ok counter ∧
    counter.ReadsUnknown t files

theorem lineLimit_of_counter (hcounter : s.counter = .ok counter) :
    counter.lineLimit = s.options.lineLimit := by
  obtain ⟨choice, -, rfl⟩ := counter_eq_ok.mp hcounter
  rfl

/-- What a survey with or without files of no known language comes to, in terms of the one
counter. -/
theorem take_withUnknown_eq_ok {counts : Bool} {paths : List Path} {c : Census} :
    (s.withUnknown counts).take t paths = .ok c ↔
      ∃ files counter, s.files t paths = .ok files ∧ s.counter = .ok counter ∧
        s.hasWorkers files.length = true ∧ (counter.countingUnknown counts).Counts t files ∧
        Census.ofEntries (s.kept ((counter.countingUnknown counts).counted t files)) = c := by
  rw [take_eq_ok, counter_withUnknown]
  simp only [Fallible.map_eq_ok]
  constructor
  · rintro ⟨files, _, hfiles, ⟨counter, hcounter, rfl⟩, hworkers, hcounts, rfl⟩
    exact ⟨files, counter, hfiles, hcounter, hworkers, hcounts, rfl⟩
  · rintro ⟨files, counter, hfiles, hcounter, hworkers, hcounts, rfl⟩
    exact ⟨files, _, hfiles, ⟨counter, hcounter, rfl⟩, hworkers, hcounts, rfl⟩

theorem exists_take_withUnknown {paths : List Path} :
    (∃ c, (s.withUnknown true).take t paths = .ok c) ↔
      (∃ c, (s.withUnknown false).take t paths = .ok c) ∧
        (s.options.lineLimit + 1 ≤ Line.largestRequest ∨ ¬s.ReadsUnknown t paths) := by
  simp only [take_withUnknown_eq_ok]
  constructor
  · rintro ⟨_, files, counter, hfiles, hcounter, hworkers, hcounts, rfl⟩
    obtain ⟨hwithout, hfits⟩ := FileCounter.counts_countingUnknown_iff.mp hcounts
    refine ⟨⟨_, files, counter, hfiles, hcounter, hworkers, hwithout, rfl⟩, ?_⟩
    rw [← lineLimit_of_counter hcounter]
    refine hfits.imp_right fun hnone => ?_
    rintro ⟨_, _, hsame, hchosen, hreads⟩
    cases hfiles.symm.trans hsame
    cases hcounter.symm.trans hchosen
    exact hnone hreads
  · rintro ⟨⟨_, files, counter, hfiles, hcounter, hworkers, hcounts, rfl⟩, hfits⟩
    rw [← lineLimit_of_counter hcounter] at hfits
    have hboth := FileCounter.counts_countingUnknown_iff.mpr
      ⟨hcounts, hfits.imp_right fun hnone hreads =>
        hnone ⟨files, counter, hfiles, hcounter, hreads⟩⟩
    exact ⟨_, files, counter, hfiles, hcounter, hworkers, hboth, rfl⟩

theorem take_withUnknown_eq_error (hlimit : s.options.lineLimit + 1 ≤ Line.largestRequest)
    {paths : List Path} {e : SurveyError} :
    (s.withUnknown false).take t paths = .error e ↔
      (s.withUnknown true).take t paths = .error e := by
  simp only [take_eq_error, counter_withUnknown, Fallible.map_eq_error, Fallible.map_eq_ok]
  refine or_congr Iff.rfl (exists_congr fun files => and_congr_right fun _ =>
    or_congr Iff.rfl ?_)
  have hworkers : ∀ counts n, (s.withUnknown counts).hasWorkers n = s.hasWorkers n :=
    fun _ _ => rfl
  have hcounting : ∀ counter, s.counter = .ok counter → ∀ cause,
      (entriesOf (counter.countingUnknown false) t files = .error cause ↔
        entriesOf (counter.countingUnknown true) t files = .error cause) := by
    intro counter hcounter cause
    rw [← lineLimit_of_counter hcounter] at hlimit
    exact FileCounter.entriesOf_eq_error_countingUnknown hlimit
  constructor
  · rintro ⟨_, ⟨counter, hcounter, rfl⟩, hends⟩
    refine ⟨_, ⟨counter, hcounter, rfl⟩, ?_⟩
    simpa only [hcounting counter hcounter, hworkers] using hends
  · rintro ⟨_, ⟨counter, hcounter, rfl⟩, hends⟩
    refine ⟨_, ⟨counter, hcounter, rfl⟩, ?_⟩
    simpa only [hcounting counter hcounter, hworkers] using hends

/-! ## Entries in both surveys -/

theorem mem_kept_or_unknown (hfiles : files.Pairwise fun p q => p.text ≠ q.text)
    {r : FileEntry} (h : r ∈ s.kept ((counter.countingUnknown true).counted t files)) :
    r ∈ s.kept ((counter.countingUnknown false).counted t files) ∨ r.language = fallbackName := by
  rw [mem_kept_iff s (FileCounter.nodup_paths_counted _ t hfiles)] at h ⊢
  obtain ⟨hcounted, hkept⟩ := h
  obtain hcounted | hname := FileCounter.mem_counted_or_unknown hcounted
  · refine .inl ⟨hcounted, ?_⟩
    rintro ⟨hskip, hrepeats⟩
    exact hkept ⟨hskip, hrepeats.mono (counter.counted_subset t files)⟩
  · exact .inr hname

/-- An entry gives way to a file of no known language, and to nothing else: the least path of its
content is not its own, and it was so without that file. -/
theorem mem_kept_countingUnknown_iff (hfiles : files.Pairwise fun p q => p.text ≠ q.text)
    {r : FileEntry} (h : r ∈ s.kept ((counter.countingUnknown false).counted t files)) :
    r ∈ s.kept ((counter.countingUnknown true).counted t files) ↔
      ¬(s.options.skipDuplicates = true ∧
        Repeats ((s.kept ((counter.countingUnknown true).counted t files)).filter
          (·.language == fallbackName)) r) := by
  have hpaths (counts : Bool) :=
    FileCounter.nodup_paths_counted (counter.countingUnknown counts) t hfiles
  obtain ⟨hcounted, hkept⟩ := (mem_kept_iff s (hpaths false)).mp h
  constructor
  · rintro hlisted ⟨hskip, q, hq, hrepeats⟩
    have hqcounted := ((mem_kept_iff s (hpaths true)).mp (List.mem_filter.mp hq).1).1
    exact ((mem_kept_iff s (hpaths true)).mp hlisted).2 ⟨hskip, q, hqcounted, hrepeats⟩
  · intro hunrepeated
    rw [mem_kept_iff s (hpaths true)]
    refine ⟨counter.counted_subset t files hcounted, ?_⟩
    rintro ⟨hskip, q, hq, hlt, hsome, hhash⟩
    -- the least path of the content cannot be that of a file that is counted in any case
    obtain ⟨least, hleast, hsame, hle, -⟩ := exists_kept_of_content s (hpaths true) hskip hq
      (Option.isSome_iff_ne_none.mp hsome)
    have hrepeats : least.path < r.path ∧ least.contentHash.isSome = true ∧
        least.contentHash = r.contentHash :=
      ⟨Std.lt_of_le_of_lt (hle q hq rfl) hlt, by rwa [hsame], hsame.trans hhash⟩
    obtain hknown | hname := mem_kept_or_unknown hfiles hleast
    · have hleastcounted := ((mem_kept_iff s (hpaths false)).mp hknown).1
      exact hkept ⟨hskip, least, hleastcounted, hrepeats⟩
    · refine hunrepeated ⟨hskip, least, ?_, hrepeats⟩
      exact List.mem_filter.mpr ⟨hleast, beq_iff_eq.mpr hname⟩

end Survey

/-- The files of a census that are listed as files of no known language. -/
def Census.unknown (c : Census) : List FileEntry :=
  c.files.filter (·.language == fallbackName)

namespace Survey

/-- Counting files of no known language adds nothing but such files, and makes a survey fail no more
and no less often, unless its limit is too large for a file to be read and one of them is.  A file
that is listed without them is left out only where duplicates are skipped and one of them has its
content and a smaller path.  The files of every other language, and its row, are the same, unless
one of its files is left out so. -/
theorem take_withUnknown (s : Survey) {t : FileTree} (ht : t.Proper) (spelled : List String) :
    let paths := spelled.map Path.ofString
    let without := (s.withUnknown false).take t paths
    let counting := (s.withUnknown true).take t paths
    let fits := s.options.lineLimit + 1 ≤ Line.largestRequest
    (fits → ∀ e, without = .error e ↔ counting = .error e) ∧
    ((∃ c₁, counting = .ok c₁) ↔ (∃ c₀, without = .ok c₀) ∧ (fits ∨ ¬s.ReadsUnknown t paths)) ∧
    ∀ c₀ c₁, without = .ok c₀ → counting = .ok c₁ →
      let replaced (r : FileEntry) := s.options.skipDuplicates = true ∧ Repeats c₁.unknown r
      (∀ r ∈ c₁.files, r ∈ c₀.files ∨ r.language = fallbackName) ∧
      (∀ r ∈ c₀.files, r ∈ c₁.files ↔ ¬replaced r) ∧
      ∀ language ≠ fallbackName, (∀ r ∈ c₀.files, r.language = language → ¬replaced r) →
        c₁.files.filter (·.language == language) = c₀.files.filter (·.language == language) ∧
        ∀ row : LanguageEntry, row.name = language → (row ∈ c₁.languages ↔ row ∈ c₀.languages) := by
  intro paths without counting fits
  refine ⟨fun hfits e => take_withUnknown_eq_error hfits, exists_take_withUnknown, ?_⟩
  intro c₀ c₁ h₀ h₁ replaced
  obtain ⟨files, counter, hfiles, hcounter, -, -, rfl⟩ := take_withUnknown_eq_ok.mp h₀
  obtain ⟨_, _, hsame, hchosen, -, -, rfl⟩ := take_withUnknown_eq_ok.mp h₁
  cases hfiles.symm.trans hsame
  cases hcounter.symm.trans hchosen
  have htexts := pairwise_text_files ht hfiles
  have hpaths (counts : Bool) :=
    FileCounter.nodup_paths_counted (counter.countingUnknown counts) t htexts
  let kept (counts : Bool) := s.kept ((counter.countingUnknown counts).counted t files)
  have hasc (counts : Bool) : (kept counts).Pairwise fun a b => a.path < b.path :=
    ascending_kept s (hpaths counts)
  have hsums (counts : Bool) : (Census.ofEntries (kept counts)).SumsUp (kept counts) :=
    (Totals.holds_ofList _).sumsUp
  have hadded : ∀ r ∈ kept true, r ∈ kept false ∨ r.language = fallbackName :=
    fun r => mem_kept_or_unknown htexts
  have hkept : ∀ r ∈ kept false, (r ∈ kept true ↔ ¬replaced r) := by
    intro r hr
    rw [mem_kept_countingUnknown_iff htexts hr, ← files_census_kept s (hpaths true)]
    rfl
  rw [files_census_kept s (hpaths true), files_census_kept s (hpaths false)]
  refine ⟨hadded, hkept, ?_⟩
  intro language hname hunreplaced
  have hfilter : (kept true).filter (·.language == language) =
      (kept false).filter (·.language == language) := by
    refine Sorting.eq_of_pairwise_lt FileEntry.path ((hasc true).filter _)
      ((hasc false).filter _) ?_
    intro r
    rw [List.mem_filter, List.mem_filter, beq_iff_eq]
    constructor
    · rintro ⟨hr, hlanguage⟩
      exact ⟨(hadded r hr).resolve_right (hlanguage ▸ hname), hlanguage⟩
    · rintro ⟨hr, hlanguage⟩
      exact ⟨(hkept r hr).mpr (hunreplaced r hr hlanguage), hlanguage⟩
  refine ⟨hfilter, ?_⟩
  rintro row rfl
  exact (hsums true).mem_languages_congr (hsums false) hfilter

/-! ## A file of no known language with a copy -/

private def copies : FileTree :=
  { root := [("a", .file [0x78]), ("b.go", .file [0x78])] }

private def copied (skips : Bool) : Survey where
  options := { skipDuplicates := skips }
  encoder := List.length

private def copyEntry (path language : String) : FileEntry where
  path := path
  language := language
  code := 1
  contentHash := some (Digest.hex (Digest.sha256 [0x78]))

private theorem read_copies {name : String} (hname : name = "a" ∨ name = "b.go") :
    copies.read (.ofString name) = .ok [0x78] := by
  rcases hname with rfl | rfl <;> cbv

private theorem repeats_copies {first second : String} :
    Repeats [copyEntry "a" first] (copyEntry "b.go" second) :=
  ⟨_, List.mem_singleton_self _, show "a" < "b.go" by decide, rfl, rfl⟩

private def keptCopies (skips counts : Bool) (language : String) : List FileEntry :=
  if counts then
    if skips then [copyEntry "a" fallbackName]
    else [copyEntry "a" fallbackName, copyEntry "b.go" language]
  else [copyEntry "b.go" language]

private theorem mem_keptCopies {skips counts : Bool} {language : String} {r : FileEntry} :
    r ∈ (Census.ofEntries (keptCopies skips counts language)).files ↔
      r ∈ keptCopies skips counts language := by
  rw [Census.ofEntries, (Totals.holds_ofList _).lists.perm.mem_iff]

private theorem take_copies {s : Survey} (counter : FileCounter) {skips counts : Bool}
    {language : String} (hcounter : (s.withUnknown counts).counter = .ok counter)
    (hfiles : s.files copies [.ofString "."] = .ok [.ofString "a", .ofString "b.go"])
    (hskips : s.options.skipDuplicates = skips)
    (ha : counter.count copies (.ofString "a") =
      .ok (if counts then some (copyEntry "a" fallbackName) else none))
    (hb : counter.count copies (.ofString "b.go") = .ok (some (copyEntry "b.go" language))) :
    (s.withUnknown counts).take copies [.ofString "."] =
      .ok (Census.ofEntries (keptCopies skips counts language)) := by
  have hcounts : counter.Counts copies [.ofString "a", .ofString "b.go"] :=
    List.forall_mem_cons.mpr ⟨⟨_, ha⟩, List.forall_mem_singleton.mpr ⟨_, hb⟩⟩
  have hcounted : counter.counted copies [.ofString "a", .ofString "b.go"] =
      if counts then [copyEntry "a" fallbackName, copyEntry "b.go" language]
      else [copyEntry "b.go" language] := by
    rw [FileCounter.counted, List.filterMap_cons, FileCounter.entryAt, ha, List.filterMap_cons,
      FileCounter.entryAt_eq_some.mpr hb]
    cases counts <;> rfl
  have hworkers : s.hasWorkers 2 = true := rfl
  refine take_eq_ok.mpr ⟨_, counter, hfiles, hcounter, hworkers, hcounts, ?_⟩
  show Census.ofEntries (s.kept _) = _
  rw [hcounted, kept, hskips, keptCopies]
  cases counts with
  | false =>
    rw [if_neg Bool.false_ne_true, if_neg Bool.false_ne_true, List.mergeSort_singleton]
    cases skips <;> rfl
  | true =>
    have hsorted : [copyEntry "a" fallbackName, copyEntry "b.go" language].mergeSort
        (fun a b => a.path ≤ b.path) =
          [copyEntry "a" fallbackName, copyEntry "b.go" language] :=
      List.mergeSort_of_pairwise (by simp [copyEntry])
    rw [if_pos rfl, if_pos rfl, hsorted]
    cases skips with
    | false => rfl
    | true =>
      have hfirst : (copyEntry "a" fallbackName).contentHash ∉ ([] : List String).map some :=
        List.not_mem_nil
      have hsame : (copyEntry "b.go" language).contentHash ∈
          ((copyEntry "a" fallbackName).contentHash.toList ++ []).map some :=
        List.mem_singleton_self _
      rw [if_pos rfl, if_pos rfl, dropRepeated_cons, if_neg hfirst, dropRepeated_cons,
        if_pos hsame]
      rfl

private theorem count_copies {counter : FileCounter} {name : String} {g : Grammar}
    (hname : name = "a" ∨ name = "b.go")
    (hgrammar : (counter.detector.languageOf (.ofString name) (some [0x78]) >>=
      counter.detector.checked) >>= counter.grammarFor (.ofString name) = .ok (some g))
    (hentry : counter.entryFor (.ofString name) g [0x78] = .ok (copyEntry name g.name)) :
    counter.count copies (.ofString name) = .ok (some (copyEntry name g.name)) := by
  have hread := read_copies hname
  exact FileCounter.count_of_read hread ((FileCounter.grammarAt_of_read hread).trans hgrammar) hentry

private theorem count_copies_eq_none {counter : FileCounter}
    (hgrammar : (counter.detector.languageOf (.ofString "a") (some [0x78]) >>=
      counter.detector.checked) >>= counter.grammarFor (.ofString "a") = .ok none) :
    counter.count copies (.ofString "a") = .ok none := by
  have hread := read_copies (.inl rfl)
  exact FileCounter.count_eq_none.mpr ((FileCounter.grammarAt_of_read hread).trans hgrammar)

private theorem take_copied (skips counts : Bool) :
    ((copied skips).withUnknown counts).take copies [.ofString "."] =
      .ok (Census.ofEntries (keptCopies skips counts "Go")) := by
  let counter := ((copied skips).withUnknown counts).counterFor ⟨[], [], []⟩
  have hfiles : (copied skips).files copies [.ofString "."] =
    .ok [.ofString "a", .ofString "b.go"] := by cbv
  refine take_copies counter rfl hfiles rfl ?_ ?_
  · cases counts with
    | false => exact count_copies_eq_none (by cases skips <;> decide)
    | true =>
      exact count_copies (g := fallbackGrammar) (.inl rfl) (by cases skips <;> decide) rfl
  · exact count_copies (g := ⟨"Go", [['/', '/']], [⟨['/', '*'], ['*', '/']⟩]⟩) (.inr rfl)
      (by cases skips <;> cases counts <;> decide) rfl

private def namedUnknown : Survey where
  options := {}
  detector := {
    registry := {
      grammars := [{ name := "Unknown" }], extensions := [("go", .text "Unknown")], shared := [] } }
  encoder := List.length

private theorem take_namedUnknown (counts : Bool) :
    (namedUnknown.withUnknown counts).take copies [.ofString "."] =
      .ok (Census.ofEntries (keptCopies false counts "Unknown")) := by
  let counter := (namedUnknown.withUnknown counts).counterFor ⟨[], [], []⟩
  have hfiles : namedUnknown.files copies [.ofString "."] =
    .ok [.ofString "a", .ofString "b.go"] := by cbv
  refine take_copies counter rfl hfiles rfl ?_ ?_
  · cases counts with
    | false => exact count_copies_eq_none (by decide)
    | true => exact count_copies (g := fallbackGrammar) (.inl rfl) (by decide) rfl
  · exact count_copies (g := { name := "Unknown" }) (.inr rfl)
      (by cases counts <;> decide) rfl

/-- Where the file of no known language is counted, the Go file gives way to it if duplicates are
skipped, and keeps its row if they are not.  With the largest of limits a file of no known language
is passed over, and cannot be counted. -/
theorem take_withUnknown_copies :
    let t : FileTree := { root := [("a", .file [0x78]), ("b.go", .file [0x78])] }
    let skipping : Survey := { options := { skipDuplicates := true }, encoder := List.length }
    let s : Survey := { options := { skipDuplicates := false }, encoder := List.length }
    let lone : FileTree := { root := [("a", .file [0x78])] }
    let large : Survey := { options := { lineLimit := 2 ^ 63 - 1 }, encoder := List.length }
    let paths := ["."].map Path.ofString
    t.Proper ∧ s.options.lineLimit + 1 ≤ Line.largestRequest ∧
      (∃ c₀ c₁, (skipping.withUnknown false).take t paths = .ok c₀ ∧
        (skipping.withUnknown true).take t paths = .ok c₁ ∧
        ∃ r ∈ c₀.files, r.language = "Go" ∧ Repeats c₁.unknown r ∧ r ∉ c₁.files) ∧
      (∃ c₀ c₁, (s.withUnknown false).take t paths = .ok c₀ ∧
        (s.withUnknown true).take t paths = .ok c₁ ∧
        (∀ e, (s.withUnknown true).take t paths ≠ .error e) ∧
        ∃ row ∈ c₀.languages, row.name = "Go" ∧ row ∈ c₁.languages) ∧
      lone.Proper ∧ (∃ c₀, (large.withUnknown false).take lone paths = .ok c₀) ∧
        large.ReadsUnknown lone paths ∧
        ¬∃ c₁, (large.withUnknown true).take lone paths = .ok c₁ := by
  intro t skipping s lone large paths
  have ht : t.Proper := by
    rw [FileTree.Proper, FileNode.properEntries_cons, FileNode.properEntries_cons]
    exact ⟨by decide, trivial, by decide, trivial, FileNode.properEntries_nil⟩
  have hlone : lone.Proper := by
    rw [FileTree.Proper, FileNode.properEntries_cons]
    exact ⟨by decide, trivial, FileNode.properEntries_nil⟩
  have hfits : s.options.lineLimit + 1 ≤ Line.largestRequest := by decide
  have hgo (skips : Bool) : copyEntry "b.go" "Go" ∈
      (Census.ofEntries (keptCopies skips false "Go")).files :=
    mem_keptCopies.mpr (List.mem_singleton_self _)
  refine ⟨ht, hfits, ?_, ?_, hlone, ?_⟩
  · have hunknown : copyEntry "a" fallbackName ∈
        (Census.ofEntries (keptCopies true true "Go")).unknown :=
      List.mem_filter.mpr ⟨mem_keptCopies.mpr (List.mem_singleton_self _), rfl⟩
    have hrepeats : Repeats (Census.ofEntries (keptCopies true true "Go")).unknown
        (copyEntry "b.go" "Go") :=
      repeats_copies.mono (List.cons_subset.mpr ⟨hunknown, List.nil_subset _⟩)
    obtain ⟨-, -, hcensuses⟩ := take_withUnknown skipping ht ["."]
    obtain ⟨-, hkept, -⟩ := hcensuses _ _ (take_copied true false) (take_copied true true)
    exact ⟨_, _, take_copied true false, take_copied true true, _, hgo true, rfl, hrepeats,
      fun hlisted => (hkept _ (hgo true)).mp hlisted ⟨rfl, hrepeats⟩⟩
  · obtain ⟨herrors, -, hcensuses⟩ := take_withUnknown s ht ["."]
    have hrow : (⟨"Go", sumOf (keptCopies false false "Go") "Go"⟩ : LanguageEntry) ∈
        (Census.ofEntries (keptCopies false false "Go")).languages := by
      have hsums := (Totals.holds_ofList (keptCopies false false "Go")).sumsUp
      exact (hsums.mem_languages_iff _).mpr ⟨List.mem_singleton_self _, rfl⟩
    obtain ⟨-, -, hrows⟩ := hcensuses _ _ (take_copied false false) (take_copied false true)
    obtain ⟨-, hrows⟩ := hrows "Go" (by decide) fun _ _ _ hreplaced =>
      absurd hreplaced.1 Bool.false_ne_true
    refine ⟨_, _, take_copied false false, take_copied false true, ?_, _, hrow, rfl,
      (hrows _ rfl).mpr hrow⟩
    intro e he
    cases (take_copied false false).symm.trans ((herrors hfits e).mpr he)
  · have hfiles : large.files lone paths = .ok [.ofString "a"] := by cbv
    have hread : lone.read (.ofString "a") = .ok [0x78] :=
      FileTree.read_of_entry "a" rfl (by decide) rfl
    let counter := large.counterFor ⟨[], [], []⟩
    have hunplaced : (counter.countingUnknown false).grammarAt lone (.ofString "a") = .ok none :=
      (FileCounter.grammarAt_of_read hread).trans (by decide)
    have hunknown : (counter.countingUnknown true).grammarAt lone (.ofString "a") =
        .ok (some fallbackGrammar) :=
      (FileCounter.grammarAt_of_read hread).trans (by decide)
    have hcounts : (counter.countingUnknown false).Counts lone [.ofString "a"] :=
      List.forall_mem_singleton.mpr ⟨_, FileCounter.count_eq_none.mpr hunplaced⟩
    have hreads : large.ReadsUnknown lone paths :=
      ⟨_, counter, hfiles, rfl, _, List.mem_singleton_self _, hunknown, _, hread⟩
    have htake := take_withUnknown_eq_ok.mpr ⟨_, counter, hfiles, rfl, rfl, hcounts, rfl⟩
    obtain ⟨-, hfails, -⟩ := take_withUnknown large hlone ["."]
    refine ⟨⟨_, htake⟩, hreads, ?_⟩
    rw [hfails]
    rintro ⟨-, hlarge | hnone⟩
    · exact absurd hlarge (by decide)
    · exact hnone hreads

/-- The Go file is listed only where the file of no known language is not counted.  And a language
that is registered under the name for such files gets another row by them. -/
theorem take_withUnknown_replaced :
    let t : FileTree := { root := [("a", .file [0x78]), ("b.go", .file [0x78])] }
    let s : Survey := { options := { skipDuplicates := true }, encoder := List.length }
    let registry : Registry :=
      { grammars := [{ name := "Unknown" }], extensions := [("go", .text "Unknown")], shared := [] }
    let named : Survey := { detector := { registry }, encoder := List.length }
    (s.detector.registry.contains "Go" = true ∧
      ∃ c₀ c₁, (s.withUnknown false).take t [.ofString "."] = .ok c₀ ∧
        (s.withUnknown true).take t [.ofString "."] = .ok c₁ ∧
        ∃ r ∈ c₀.files, r.language = "Go" ∧ r ∉ c₁.files) ∧
    ∃ c₀ c₁, (named.withUnknown false).take t [.ofString "."] = .ok c₀ ∧
      (named.withUnknown true).take t [.ofString "."] = .ok c₁ ∧
      ∃ row ∈ c₀.languages, registry.contains row.name = true ∧ row ∉ c₁.languages := by
  intro t s registry named
  constructor
  · refine ⟨by decide, _, _, take_copied true false, take_copied true true,
      copyEntry "b.go" "Go", mem_keptCopies.mpr (List.mem_singleton_self _), rfl, ?_⟩
    intro hlisted
    have hpath := congrArg FileEntry.path (List.mem_singleton.mp (mem_keptCopies.mp hlisted))
    exact absurd hpath (by decide)
  · have hsums (counts : Bool) :=
      (Totals.holds_ofList (keptCopies false counts "Unknown")).sumsUp
    let row : LanguageEntry := ⟨"Unknown", sumOf (keptCopies false false "Unknown") "Unknown"⟩
    refine ⟨_, _, take_namedUnknown false, take_namedUnknown true, row,
      ((hsums false).mem_languages_iff _).mpr ⟨List.mem_singleton_self _, rfl⟩, rfl, ?_⟩
    intro hlisted
    obtain ⟨-, htally⟩ := ((hsums true).mem_languages_iff _).mp hlisted
    exact absurd (congrArg Tally.files htally) (by decide)

end Survey

end LineCensus
