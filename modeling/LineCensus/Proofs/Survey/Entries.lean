import LineCensus.Proofs.Files.Collected
import LineCensus.Proofs.Files.Counted
import LineCensus.Proofs.Totals.Sums
import LineCensus.Survey

/-!
# The entries of a survey

The files of the outcome are the counted ones in the order of their paths, which are all
different.  With duplicates skipped, an entry is left out if another one with a smaller path has
its content; the sums are those of the entries that are left.
-/

namespace LineCensus

namespace FileCounter

variable {c : FileCounter} {t : FileTree} {p : Path} {r : FileEntry} {files : List Path}

theorem path_of_count (h : c.count t p = .ok (some r)) : r.path = p.text := by
  obtain ⟨g, -, hmeasure⟩ := count_eq_some.mp h
  exact path_of_measure hmeasure

/-- The digest of an entry is that of the content of its file; what could not be read has none. -/
theorem contentHash_of_count (h : c.count t p = .ok (some r)) :
    r.contentHash = (t.read p).toOption.map fun content => Digest.hex (Digest.sha256 content) := by
  obtain ⟨g, -, hmeasure⟩ := count_eq_some.mp h
  cases hread : t.read p with
  | ok content => exact contentHash_of_measure hread hmeasure
  | error e =>
    rw [measure, hread] at hmeasure
    cases hmeasure
    rfl

theorem count_of_read {content : List UInt8} {g : Grammar} (hread : t.read p = .ok content)
    (hgrammar : c.grammarAt t p = .ok (some g)) (hentry : c.entryFor p g content = .ok r) :
    c.count t p = .ok (some r) := by
  refine count_eq_some.mpr ⟨g, hgrammar, ?_⟩
  rw [measure, hread]
  exact hentry

/-! ## The entries of files -/

def entryAt (c : FileCounter) (t : FileTree) (p : Path) : Option FileEntry :=
  (c.count t p).toOption.join

theorem entryAt_eq_some : c.entryAt t p = some r ↔ c.count t p = .ok (some r) := by
  rw [entryAt, Option.join_eq_some_iff, Fallible.toOption_eq_some]

def counted (c : FileCounter) (t : FileTree) (files : List Path) : List FileEntry :=
  files.filterMap (c.entryAt t)

theorem mem_counted : r ∈ c.counted t files ↔ ∃ p ∈ files, c.count t p = .ok (some r) := by
  simp only [counted, List.mem_filterMap, entryAt_eq_some]

theorem nodup_paths_counted (c : FileCounter) (t : FileTree)
    (hfiles : files.Pairwise fun p q => p.text ≠ q.text) :
    ((c.counted t files).map (·.path)).Nodup := by
  rw [List.Nodup, List.pairwise_map, counted, List.pairwise_filterMap]
  refine hfiles.imp ?_
  intro p q htext a ha b hb
  rw [path_of_count (entryAt_eq_some.mp ha), path_of_count (entryAt_eq_some.mp hb)]
  exact htext

def Counts (c : FileCounter) (t : FileTree) (files : List Path) : Prop :=
  ∀ p ∈ files, ∃ found, c.count t p = .ok found

end FileCounter

theorem Survey.entriesOf_eq_ok {c : FileCounter} {t : FileTree} {files : List Path}
    {entries : List FileEntry} :
    entriesOf c t files = .ok entries ↔ c.Counts t files ∧ c.counted t files = entries := by
  rw [FileCounter.Counts, ← Fallible.exists_mapM_eq_ok, entriesOf, Fallible.map_eq_ok,
    ← exists_and_right]
  refine exists_congr fun found => and_congr_right fun hfound => ?_
  have hall := Fallible.mapM_eq_ok.mp hfound
  clear hfound
  have hsame : found.reduceOption = c.counted t files := by
    rw [List.reduceOption]
    induction hall with
    | nil => rfl
    | @cons p first files found hfirst _ ih =>
      rw [FileCounter.counted, List.filterMap_cons, List.filterMap_cons, ih, FileCounter.entryAt,
        hfirst]
      rfl
  rw [hsame]

/-- An entry with the content of one that has a smaller path. -/
def Repeats (entries : List FileEntry) (r : FileEntry) : Prop :=
  ∃ q ∈ entries, q.path < r.path ∧ q.contentHash.isSome = true ∧ q.contentHash = r.contentHash

instance (entries : List FileEntry) : DecidablePred (Repeats entries) := fun r =>
  inferInstanceAs (Decidable (∃ q ∈ entries,
    q.path < r.path ∧ q.contentHash.isSome = true ∧ q.contentHash = r.contentHash))

theorem repeats_perm {l₁ l₂ : List FileEntry} (hperm : l₁.Perm l₂) (r : FileEntry) :
    Repeats l₁ r ↔ Repeats l₂ r := by
  simp only [Repeats, hperm.mem_iff]

theorem repeats_cons {first : FileEntry} {rest : List FileEntry} {r : FileEntry} :
    Repeats (first :: rest) r ↔
      first.path < r.path ∧ first.contentHash.isSome = true ∧ first.contentHash = r.contentHash ∨
        Repeats rest r := by
  simp [Repeats]

theorem not_repeats_of_forall_lt {first : FileEntry} {rest : List FileEntry}
    (h : ∀ q ∈ rest, first.path < q.path) : ¬Repeats (first :: rest) first := by
  rintro ⟨q, hq, hlt, -⟩
  rcases List.mem_cons.mp hq with rfl | hq
  · exact String.lt_irrefl _ hlt
  · exact String.lt_irrefl _ (String.lt_trans hlt (h q hq))

theorem exists_least {entries : List FileEntry} (hpaths : (entries.map (·.path)).Nodup)
    {q : FileEntry} (hq : q ∈ entries) :
    ∃ r ∈ entries, r.contentHash = q.contentHash ∧
      ∀ p ∈ entries, p.contentHash = q.contentHash → p = r ∨ r.path < p.path := by
  have hasc := Sorting.pairwise_lt_mergeSort FileEntry.path hpaths
  have hmem : ∀ p, p ∈ (entries.mergeSort fun a b => a.path ≤ b.path).filter
      (·.contentHash = q.contentHash) ↔ p ∈ entries ∧ p.contentHash = q.contentHash := by
    intro p
    rw [List.mem_filter, List.mem_mergeSort, decide_eq_true_eq]
  have hsame := hasc.filter (·.contentHash = q.contentHash)
  cases hfilter : (entries.mergeSort fun a b => a.path ≤ b.path).filter
      (·.contentHash = q.contentHash) with
  | nil =>
    have hthere := (hmem q).mpr ⟨hq, rfl⟩
    rw [hfilter] at hthere
    cases hthere
  | cons r rest =>
    rw [hfilter] at hmem hsame
    obtain ⟨hr, hhash⟩ := (hmem r).mp List.mem_cons_self
    refine ⟨r, hr, hhash, ?_⟩
    intro p hp hpq
    rcases List.mem_cons.mp ((hmem p).mpr ⟨hp, hpq⟩) with heq | hrest
    · exact .inl heq
    · exact .inr (List.rel_of_pairwise_cons hsame hrest)

namespace Survey

/-! ## Duplicates -/

theorem dropRepeated_cons (seen : List String) (r : FileEntry) (rest : List FileEntry) :
    dropRepeated seen (r :: rest) =
      if r.contentHash ∈ seen.map some then dropRepeated seen rest
      else r :: dropRepeated (r.contentHash.toList ++ seen) rest := by
  rw [dropRepeated]
  cases r.contentHash with
  | none => simp
  | some digest => simp

theorem mem_seen_iff {met digest : Option String} {seen : List String} :
    digest ∈ (met.toList ++ seen).map some ↔
      met.isSome = true ∧ met = digest ∨ digest ∈ seen.map some := by
  cases met with
  | none => simp
  | some m => simp [eq_comm]

/-- Among entries in the order of their paths, what was met before is the content of an entry with
a smaller path. -/
theorem dropRepeated_eq_filter (seen : List String) {entries : List FileEntry}
    (hasc : entries.Pairwise fun a b => a.path < b.path) :
    dropRepeated seen entries = entries.filter fun r =>
      ¬(r.contentHash ∈ seen.map some ∨ Repeats entries r) := by
  induction entries generalizing seen with
  | nil => rfl
  | cons r rest ih =>
    obtain ⟨hlt, hrest⟩ := List.pairwise_cons.mp hasc
    have hfirst : ¬Repeats (r :: rest) r := not_repeats_of_forall_lt hlt
    have hlater : ∀ q ∈ rest, (Repeats (r :: rest) q ↔
        r.contentHash.isSome = true ∧ r.contentHash = q.contentHash ∨ Repeats rest q) := by
      intro q hq
      rw [repeats_cons, and_iff_right (hlt q hq)]
    rw [dropRepeated_cons]
    by_cases hseen : r.contentHash ∈ seen.map some
    · rw [if_pos hseen, ih seen hrest, List.filter_cons_of_neg (by simp [hseen])]
      apply List.filter_congr
      intro q hq
      rw [decide_eq_decide, hlater q hq]
      -- `q` has the content of `r` only if that was met before `r`
      have hmet : r.contentHash = q.contentHash → q.contentHash ∈ seen.map some := (· ▸ hseen)
      tauto
    · rw [if_neg hseen, ih _ hrest, List.filter_cons_of_pos (by simpa [hseen] using hfirst)]
      congr 1
      apply List.filter_congr
      intro q hq
      rw [decide_eq_decide, hlater q hq, mem_seen_iff]
      tauto

/-! ## The entries that are left -/

section Kept

variable (s : Survey) {counted : List FileEntry} (hpaths : (counted.map (·.path)).Nodup)

include hpaths

theorem ascending_kept : (s.kept counted).Pairwise fun a b => a.path < b.path := by
  have hasc := Sorting.pairwise_lt_mergeSort FileEntry.path hpaths
  rw [kept]
  split
  · exact hasc.sublist (dropRepeated_sublist _ _)
  · exact hasc

theorem kept_perm_filter :
    (s.kept counted).Perm (counted.filter fun r =>
      ¬(s.options.skipDuplicates = true ∧ Repeats counted r)) := by
  have hasc := Sorting.pairwise_lt_mergeSort FileEntry.path hpaths
  have hsort : (counted.mergeSort fun a b => a.path ≤ b.path).Perm counted :=
    List.mergeSort_perm _ _
  rw [kept]
  split
  · next hskip =>
    rw [dropRepeated_eq_filter [] hasc]
    simpa [hskip, repeats_perm hsort] using hsort.filter _
  · next hskip => simpa [hskip] using hsort

theorem mem_kept_iff {r : FileEntry} :
    r ∈ s.kept counted ↔ r ∈ counted ∧
      ¬(s.options.skipDuplicates = true ∧ Repeats counted r) := by
  rw [(kept_perm_filter s hpaths).mem_iff, List.mem_filter, decide_eq_true_eq]

theorem files_census_kept : (Census.ofEntries (s.kept counted)).files = s.kept counted := by
  rw [Census.ofEntries, (Totals.holds_ofList _).files_census]
  apply List.mergeSort_of_pairwise
  refine (ascending_kept s hpaths).imp ?_
  intro a b hlt
  exact Totals.fileLe_iff.mpr (.inl hlt)

/-- Where duplicates are skipped, each content is left under the least of its paths alone. -/
theorem exists_kept_of_content (hskip : s.options.skipDuplicates = true) {q : FileEntry}
    (hq : q ∈ counted) (hhash : q.contentHash ≠ none) :
    ∃ r ∈ s.kept counted, r.contentHash = q.contentHash ∧
      (∀ p ∈ counted, p.contentHash = q.contentHash → r.path ≤ p.path) ∧
      ∀ p ∈ s.kept counted, p.contentHash = q.contentHash → p = r := by
  obtain ⟨r, hr, hrq, hleast⟩ := exists_least hpaths hq
  refine ⟨r, ?_, hrq, ?_, ?_⟩
  · rw [mem_kept_iff s hpaths]
    refine ⟨hr, ?_⟩
    rintro ⟨-, p, hp, hlt, -, hpr⟩
    rcases hleast p hp (hpr.trans hrq) with rfl | hgt
    · exact String.lt_irrefl _ hlt
    · exact String.lt_irrefl _ (String.lt_trans hlt hgt)
  · intro p hp hpq
    rcases hleast p hp hpq with rfl | hlt
    · exact String.le_refl _
    · exact String.not_lt.mp fun hgt => String.lt_irrefl _ (String.lt_trans hlt hgt)
  · intro p hp hpq
    obtain ⟨hp, hkept⟩ := (mem_kept_iff s hpaths).mp hp
    rcases hleast p hp hpq with heq | hlt
    · exact heq
    · have hsome : r.contentHash.isSome = true := by
        rw [hrq]
        exact Option.isSome_iff_ne_none.mpr hhash
      exact absurd ⟨hskip, r, hr, hlt, hsome, hrq.trans hpq.symm⟩ hkept

end Kept

theorem mem_of_mem_kept {s : Survey} {counted : List FileEntry} {r : FileEntry}
    (h : r ∈ (Census.ofEntries (s.kept counted)).files) : r ∈ counted := by
  rw [Census.ofEntries, (Totals.holds_ofList _).files_census, List.mem_mergeSort, kept] at h
  split at h
  · exact List.mem_mergeSort.mp ((dropRepeated_sublist _ _).subset h)
  · exact List.mem_mergeSort.mp h

/-! ## Contents -/

variable {s : Survey} {counter : FileCounter} {t : FileTree} {files : List Path}

def contents (t : FileTree) (files : List Path) : List (List UInt8) :=
  files.filterMap fun p => (t.read p).toOption

def holding (counter : FileCounter) (t : FileTree) (files : List Path) (content : List UInt8) :
    List FileEntry :=
  counter.counted t (files.filter fun p => (t.read p).toOption == some content)

theorem mem_holding_iff {content : List UInt8} {r : FileEntry} :
    r ∈ holding counter t files content ↔
      ∃ p ∈ files, t.read p = .ok content ∧ counter.count t p = .ok (some r) := by
  simp only [holding, FileCounter.mem_counted, List.mem_filter, beq_iff_eq,
    Fallible.toOption_eq_some, and_assoc]

/-- Entries of contents that the digest tells apart have one digest only if their files have one
content. -/
theorem mem_holding_iff_contentHash
    (happart : ∀ a ∈ contents t files, ∀ b ∈ contents t files,
      Digest.hex (Digest.sha256 a) = Digest.hex (Digest.sha256 b) → a = b)
    {content : List UInt8} (hcontent : content ∈ contents t files) {r : FileEntry} :
    r ∈ holding counter t files content ↔ r ∈ counter.counted t files ∧
      r.contentHash = some (Digest.hex (Digest.sha256 content)) := by
  rw [mem_holding_iff, FileCounter.mem_counted]
  constructor
  · rintro ⟨p, hp, hread, hcount⟩
    refine ⟨⟨p, hp, hcount⟩, ?_⟩
    rw [FileCounter.contentHash_of_count hcount, hread]
    rfl
  · rintro ⟨⟨p, hp, hcount⟩, hhash⟩
    rw [FileCounter.contentHash_of_count hcount] at hhash
    obtain ⟨other, hother, hdigest⟩ := Option.map_eq_some_iff.mp hhash
    have hmem : other ∈ contents t files := List.mem_filterMap.mpr ⟨p, hp, hother⟩
    rw [happart other hmem content hcontent hdigest] at hother
    exact ⟨p, hp, Fallible.toOption_eq_some.mp hother, hcount⟩

/-- If the digest tells the contents apart, each content is left under the least of its paths. -/
theorem exists_kept_of_holding (hskip : s.options.skipDuplicates = true)
    (hfiles : files.Pairwise fun p q => p.text ≠ q.text)
    (happart : ∀ a ∈ contents t files, ∀ b ∈ contents t files,
      Digest.hex (Digest.sha256 a) = Digest.hex (Digest.sha256 b) → a = b)
    {content : List UInt8} {q : FileEntry} (hq : q ∈ holding counter t files content) :
    ∃ r ∈ s.kept (counter.counted t files), r ∈ holding counter t files content ∧
      (∀ p ∈ holding counter t files content, r.path ≤ p.path) ∧
      ∀ p ∈ s.kept (counter.counted t files), p ∈ holding counter t files content → p = r := by
  have hpaths := FileCounter.nodup_paths_counted counter t hfiles
  have hcontent : content ∈ contents t files := by
    obtain ⟨p, hp, hread, -⟩ := mem_holding_iff.mp hq
    exact List.mem_filterMap.mpr ⟨p, hp, Fallible.toOption_eq_some.mpr hread⟩
  have hiff : ∀ p, p ∈ holding counter t files content ↔ p ∈ counter.counted t files ∧
      p.contentHash = some (Digest.hex (Digest.sha256 content)) :=
    fun p => mem_holding_iff_contentHash happart hcontent
  obtain ⟨hcounted, hhash⟩ := (hiff q).mp hq
  obtain ⟨r, hr, hsame, hleast, honly⟩ := exists_kept_of_content s hpaths hskip hcounted
    (by rw [hhash]; exact Option.some_ne_none _)
  rw [hhash] at hsame hleast honly
  refine ⟨r, hr, (hiff r).mpr ⟨((mem_kept_iff s hpaths).mp hr).1, hsame⟩, ?_, ?_⟩
  · intro p hp
    obtain ⟨hp, hdigest⟩ := (hiff p).mp hp
    exact hleast p hp hdigest
  · intro p hlisted hp
    exact honly p hlisted ((hiff p).mp hp).2

/-! ## The counter of a survey -/

theorem counter_eq_ok :
    s.counter = .ok counter ↔ ∃ choice, s.choice = .ok choice ∧ s.counterFor choice = counter :=
  Fallible.map_eq_ok

theorem choice_of_nil (hexclude : s.options.excludeExt = []) (hinclude : s.options.includeLang = []) :
    s.choice = .ok ⟨[], [], []⟩ := by
  rw [choice, hexclude, hinclude]
  rfl

theorem length_counted (hcounter : s.counter = .ok counter)
    (hunknown : s.options.countUnknown = true) (hexclude : s.options.excludeExt = [])
    (hinclude : s.options.includeLang = []) (hcounts : counter.Counts t files) :
    (counter.counted t files).length = files.length := by
  obtain ⟨choice, hchoice, rfl⟩ := counter_eq_ok.mp hcounter
  cases (choice_of_nil hexclude hinclude).symm.trans hchoice
  rw [FileCounter.counted, List.filterMap_length_eq_length]
  intro p hp
  obtain ⟨found, hfound⟩ := hcounts p hp
  cases found with
  | some r =>
    rw [FileCounter.entryAt_eq_some.mpr hfound]
    rfl
  | none =>
    have hgrammar := FileCounter.count_eq_none.mp hfound
    obtain ⟨language, -, hgrammar⟩ := Fallible.bind_eq_ok.mp hgrammar
    obtain ⟨known, hknown, hnone⟩ := Fallible.map_eq_ok.mp hgrammar
    obtain ⟨named, -, rfl⟩ := Fallible.map_eq_ok.mp hknown
    -- a file of an unknown language has the grammar of these, and nothing is left out
    rw [if_pos (show (s.counterFor ⟨[], [], []⟩).countUnknown = true from hunknown)] at hnone
    cases named <;> cases hnone

/-! ## The outcome -/

theorem take_eq_ok {paths : List Path} {c : Census} :
    s.take t paths = .ok c ↔ ∃ files counter, s.files t paths = .ok files ∧
      s.counter = .ok counter ∧ s.hasWorkers files.length = true ∧ counter.Counts t files ∧
      Census.ofEntries (s.kept (counter.counted t files)) = c := by
  rw [take]
  simp only [Fallible.bind_eq_ok, Fallible.mapError_eq_ok, ← exists_and_left]
  refine exists₂_congr fun files counter => and_congr_right fun _ => and_congr_right fun _ => ?_
  cases s.hasWorkers files.length with
  | false => exact ⟨nofun, nofun⟩
  | true =>
    simp only [if_true, Fallible.bind_eq_ok, Fallible.mapError_eq_ok, entriesOf_eq_ok, true_and]
    constructor
    · rintro ⟨_, ⟨hcounts, rfl⟩, ⟨⟩⟩
      exact ⟨hcounts, rfl⟩
    · rintro ⟨hcounts, rfl⟩
      exact ⟨_, ⟨hcounts, rfl⟩, rfl⟩

theorem take_of_no_files {paths : List Path} {counter : FileCounter}
    (hfiles : s.files t paths = .ok []) (hcounter : s.counter = .ok counter)
    (hworkers : s.hasWorkers 0 = true) : s.take t paths = .ok (Census.ofEntries []) := by
  have hkept : s.kept [] = [] := by
    rw [kept, List.mergeSort_nil]
    split <;> rfl
  exact take_eq_ok.mpr ⟨[], counter, hfiles, hcounter, hworkers, List.forall_mem_nil _,
    congrArg Census.ofEntries hkept⟩

theorem take_eq_error {paths : List Path} {e : SurveyError} :
    s.take t paths = .error e ↔ (∃ cause, s.files t paths = .error cause ∧ e = .collecting cause) ∨
      ∃ files, s.files t paths = .ok files ∧
        ((∃ fault, s.counter = .error fault ∧ e = .choosing fault) ∨
          ∃ counter, s.counter = .ok counter ∧
            (s.hasWorkers files.length = false ∧ e = .noWorkers ∨
              s.hasWorkers files.length = true ∧
                ∃ cause, entriesOf counter t files = .error cause ∧ e = .counting cause)) := by
  rw [take]
  simp only [Fallible.bind_eq_error, Fallible.mapError_eq_ok, Fallible.mapError_eq_error]
  have hcounting (files : List Path) (counter : FileCounter) :
      (if s.hasWorkers files.length then
          (entriesOf counter t files).mapError .counting >>= fun counted =>
            (.ok (Census.ofEntries (s.kept counted)) : Except SurveyError Census)
        else .error .noWorkers) = .error e ↔
      s.hasWorkers files.length = false ∧ e = .noWorkers ∨
        s.hasWorkers files.length = true ∧
          ∃ cause, entriesOf counter t files = .error cause ∧ e = .counting cause := by
    cases s.hasWorkers files.length with
    | false => simp [eq_comm]
    | true =>
      rw [if_pos rfl, Fallible.bind_eq_error, Fallible.mapError_eq_error]
      constructor
      · rintro (⟨cause, hcause, rfl⟩ | ⟨_, -, ⟨⟩⟩)
        exact .inr ⟨rfl, cause, hcause, rfl⟩
      · rintro (⟨⟨⟩, -⟩ | ⟨-, cause, hcause, rfl⟩)
        exact .inl ⟨cause, hcause, rfl⟩
  refine or_congr (exists_congr fun cause => and_congr_right fun _ => eq_comm)
    (exists_congr fun files => and_congr_right fun _ => ?_)
  exact or_congr (exists_congr fun cause => and_congr_right fun _ => eq_comm)
    (exists_congr fun counter => and_congr_right fun _ => hcounting files counter)

theorem exists_mem_counted {paths : List Path} {c : Census} (h : s.take t paths = .ok c)
    {r : FileEntry} (hr : r ∈ c.files) :
    ∃ files counter, s.files t paths = .ok files ∧ s.counter = .ok counter ∧
      r ∈ counter.counted t files := by
  obtain ⟨files, counter, hfiles, hcounter, -, -, rfl⟩ := take_eq_ok.mp h
  exact ⟨files, counter, hfiles, hcounter, mem_of_mem_kept hr⟩

theorem mem_files_of_count {paths : List Path} {c : Census} (h : s.take t paths = .ok c)
    (hskip : s.options.skipDuplicates = false) (hfiles : s.files t paths = .ok files)
    (hcounter : s.counter = .ok counter) {p : Path} (hp : p ∈ files) {r : FileEntry}
    (hcount : counter.count t p = .ok (some r)) : r ∈ c.files := by
  obtain ⟨_, _, hcollected, hchosen, -, -, rfl⟩ := take_eq_ok.mp h
  cases hfiles.symm.trans hcollected
  cases hcounter.symm.trans hchosen
  rw [Census.ofEntries, (Totals.holds_ofList _).files_census, List.mem_mergeSort, kept, hskip]
  exact List.mem_mergeSort.mpr (FileCounter.mem_counted.mpr ⟨p, hp, hcount⟩)

theorem pairwise_text_files {spelled : List String} (ht : t.Proper)
    (h : s.files t (spelled.map Path.ofString) = .ok files) :
    files.Pairwise fun p q => p.text ≠ q.text := by
  apply (FileTree.collects_of_collect h).pairwise_text_ne ht
  intro p hp
  obtain ⟨text, -, rfl⟩ := List.mem_map.mp hp
  exact Path.proper_ofString text

/-- A survey lists the counted ones of the collected files in the order of their paths, without
those that repeat the digest of a smaller path where duplicates are skipped.  The digest is that of
the content; if it tells the contents apart, each of them is left under the least of its paths.  The
languages and the total are the sums of the files that are listed. -/
theorem census_of_take (s : Survey) {t : FileTree} (ht : t.Proper) {spelled : List String}
    {c : Census} (h : s.take t (spelled.map Path.ofString) = .ok c) :
    ∃ files counter, s.files t (spelled.map Path.ofString) = .ok files ∧
      s.counter = .ok counter ∧ (∀ p ∈ files, ∃ found, counter.count t p = .ok found) ∧
      let counted := counter.counted t files
      c.files.Perm (counted.filter fun r =>
        ¬(s.options.skipDuplicates = true ∧ Repeats counted r)) ∧
      c.files.Pairwise (fun a b => a.path < b.path) ∧
      (∀ p ∈ files, ∀ r, counter.count t p = .ok (some r) →
        r.contentHash = (t.read p).toOption.map fun content => Digest.hex (Digest.sha256 content)) ∧
      (∀ r ∈ counted, r.contentHash = none → r ∈ c.files) ∧
      (s.options.skipDuplicates = true → ∀ q ∈ counted, q.contentHash ≠ none →
        ∃ r ∈ c.files, r.contentHash = q.contentHash ∧
          (∀ p ∈ counted, p.contentHash = q.contentHash → r.path ≤ p.path) ∧
          ∀ p ∈ c.files, p.contentHash = q.contentHash → p = r) ∧
      (s.options.skipDuplicates = true →
        (∀ a ∈ contents t files, ∀ b ∈ contents t files,
          Digest.hex (Digest.sha256 a) = Digest.hex (Digest.sha256 b) → a = b) →
        ∀ content, ∀ q ∈ holding counter t files content,
          ∃ r ∈ c.files, r ∈ holding counter t files content ∧
            (∀ p ∈ holding counter t files content, r.path ≤ p.path) ∧
            ∀ p ∈ c.files, p ∈ holding counter t files content → p = r) ∧
      c.SumsUp c.files ∧
      (s.options.countUnknown = true → s.options.excludeExt = [] → s.options.includeLang = [] →
        s.options.skipDuplicates = false → c.total.tally.files = files.length) := by
  obtain ⟨files, counter, hfiles, hcounter, -, hcounts, rfl⟩ := take_eq_ok.mp h
  have htexts := pairwise_text_files ht hfiles
  have hpaths := FileCounter.nodup_paths_counted counter t htexts
  have hsums : (Census.ofEntries (s.kept (counter.counted t files))).SumsUp
      (s.kept (counter.counted t files)) := (Totals.holds_ofList _).sumsUp
  have hperm := kept_perm_filter s hpaths
  refine ⟨files, counter, hfiles, hcounter, hcounts, ?_⟩
  intro counted
  rw [files_census_kept s hpaths]
  refine ⟨hperm, ascending_kept s hpaths, ?_, ?_, ?_, ?_, hsums, ?_⟩
  · intro p _ r hcount
    exact FileCounter.contentHash_of_count hcount
  · intro r hr hhash
    rw [mem_kept_iff s hpaths]
    refine ⟨hr, ?_⟩
    rintro ⟨-, q, -, -, hsome, hq⟩
    rw [hq, hhash] at hsome
    cases hsome
  · intro hskip q hq hhash
    exact exists_kept_of_content s hpaths hskip hq hhash
  · intro hskip happart content q hq
    exact exists_kept_of_holding hskip htexts happart hq
  · intro hunknown hexclude hinclude hskip
    rw [hsums.total.files, hperm.length_eq]
    simp [hskip, length_counted hcounter hunknown hexclude hinclude hcounts]

/-! Two files with one content and a third one with another, none of them of a known language. -/

private def trio : FileTree :=
  { root := [("a", .file [0x61, 0x0a]), ("b", .file [0x61, 0x0a]), ("c", .file [0x62])] }

private def trioSurvey : Survey :=
  { options := { countUnknown := true, skipDuplicates := true }, encoder := List.length }

private def trioCounter : FileCounter :=
  trioSurvey.counterFor ⟨[], [], []⟩

private def trioFiles : List Path :=
  ["a", "b", "c"].map Path.ofString

private def lineEntry (name : String) (content : List UInt8) : FileEntry :=
  { path := name, language := "Unknown", code := 1
    contentHash := some (Digest.hex (Digest.sha256 content)) }

private theorem proper_trio : trio.Proper := by
  rw [FileTree.Proper, trio, FileNode.properEntries_cons, FileNode.properEntries_cons,
    FileNode.properEntries_cons]
  exact ⟨by decide, trivial, by decide, trivial, by decide, trivial, FileNode.properEntries_nil⟩

private theorem read_trio :
    trio.read (.ofString "a") = .ok [0x61, 0x0a] ∧ trio.read (.ofString "b") = .ok [0x61, 0x0a] ∧
      trio.read (.ofString "c") = .ok [0x62] := by
  exact ⟨FileTree.read_of_entry "a" rfl (by decide) rfl,
    FileTree.read_of_entry "b" rfl (by decide) rfl, FileTree.read_of_entry "c" rfl (by decide) rfl⟩

private theorem count_trio {name : String} {content : List UInt8}
    (hread : trio.read (.ofString name) = .ok content)
    (hgrammar : (trioCounter.detector.languageOf (.ofString name) (some content) >>=
      trioCounter.detector.checked) >>= trioCounter.grammarFor (.ofString name) =
        .ok (some fallbackGrammar))
    (hentry : entryOfContent (Path.ofString name).text fallbackGrammar trioCounter.lineLimit content =
      .ok { path := name, language := "Unknown", code := 1 }) :
    trioCounter.count trio (.ofString name) = .ok (some (lineEntry name content)) := by
  refine FileCounter.count_of_read hread ((FileCounter.grammarAt_of_read hread).trans hgrammar) ?_
  rw [FileCounter.entryFor, hentry]
  rfl

private theorem counts_trio :
    trioCounter.count trio (.ofString "a") = .ok (some (lineEntry "a" [0x61, 0x0a])) ∧
      trioCounter.count trio (.ofString "b") = .ok (some (lineEntry "b" [0x61, 0x0a])) ∧
      trioCounter.count trio (.ofString "c") = .ok (some (lineEntry "c" [0x62])) := by
  obtain ⟨ha, hb, hc⟩ := read_trio
  exact ⟨count_trio ha (by decide) (by decide),
    count_trio hb (by decide) (by decide),
    count_trio hc (by decide) (by decide)⟩

private theorem counted_trio : trioCounter.counted trio trioFiles =
    [lineEntry "a" [0x61, 0x0a], lineEntry "b" [0x61, 0x0a], lineEntry "c" [0x62]] := by
  obtain ⟨ha, hb, hc⟩ := counts_trio
  simp only [FileCounter.counted, trioFiles, List.map_cons, List.map_nil, List.filterMap_cons,
    FileCounter.entryAt_eq_some.mpr ha, FileCounter.entryAt_eq_some.mpr hb,
    FileCounter.entryAt_eq_some.mpr hc, List.filterMap_nil]

private theorem contents_trio :
    contents trio trioFiles = [[0x61, 0x0a], [0x61, 0x0a], [0x62]] := by
  obtain ⟨ha, hb, hc⟩ := read_trio
  simp only [contents, trioFiles, List.map_cons, List.map_nil, List.filterMap_cons, ha, hb, hc,
    Except.toOption, List.filterMap_nil]

private theorem files_trio : trioSurvey.files trio (["."].map Path.ofString) = .ok trioFiles := by
  cbv

private theorem take_trio : trioSurvey.take trio (["."].map Path.ofString) =
    .ok (Census.ofEntries [lineEntry "a" [0x61, 0x0a], lineEntry "c" [0x62]]) := by
  have hcounts : trioCounter.Counts trio trioFiles := by
    obtain ⟨ha, hb, hc⟩ := counts_trio
    simp only [FileCounter.Counts, trioFiles, List.map_cons, List.map_nil, List.forall_mem_cons, ha,
      hb, hc]
    exact ⟨⟨_, rfl⟩, ⟨_, rfl⟩, ⟨_, rfl⟩, fun _ h => by cases h⟩
  have hkept : trioSurvey.kept (trioCounter.counted trio trioFiles) =
      [lineEntry "a" [0x61, 0x0a], lineEntry "c" [0x62]] := by
    rw [kept, counted_trio, List.mergeSort_of_pairwise (by decide)]
    show dropRepeated [] _ = _
    decide +kernel
  exact take_eq_ok.mpr ⟨_, trioCounter, files_trio, rfl, rfl, hcounts, by rw [hkept]⟩

/-- Two files with one content and a third one with another, none of them of a known language: of
the two, one is counted. -/
theorem census_of_take_copies :
    let content : List UInt8 := [0x61, 0x0a]
    let other : List UInt8 := [0x62]
    let t : FileTree := { root := [("a", .file content), ("b", .file content), ("c", .file other)] }
    let s : Survey :=
      { options := { countUnknown := true, skipDuplicates := true }, encoder := List.length }
    let counter := s.counterFor ⟨[], [], []⟩
    let digest := "87428fc522803d31065e7bce3cf03fe475096631e5e07bbd7a0fde60c4cf25c7"
    let digest' := "3e23e8160039594a33894f6564e1b1348bbd7a0088d42c4acb73eeaed59c009d"
    let entry (path digest : String) : FileEntry :=
      { path, language := "Unknown", code := 1, contentHash := some digest }
    let files := ["a", "b", "c"].map Path.ofString
    let c := Census.ofEntries [entry "a" digest, entry "c" digest']
    t.Proper ∧ s.take t (["."].map Path.ofString) = .ok c ∧
      c.files = [entry "a" digest, entry "c" digest'] ∧ s.files t (["."].map Path.ofString) = .ok files ∧
      s.counter = .ok counter ∧
      s.options.skipDuplicates = true ∧ (entry "b" digest).contentHash ≠ none ∧
      (∃ r ∈ c.files, r.contentHash = some digest ∧ r.path ≤ "b" ∧
        ∀ p ∈ c.files, p.contentHash = some digest → p = r) ∧
      (∀ a ∈ contents t files, ∀ b ∈ contents t files,
        Digest.hex (Digest.sha256 a) = Digest.hex (Digest.sha256 b) → a = b) ∧
      entry "b" digest ∈ holding counter t files content ∧
      (∃ r ∈ c.files, r ∈ holding counter t files content ∧ r.path ≤ "b") ∧
      c.SumsUp c.files ∧ c.total.tally = ⟨2, 2, 0, 0, 0⟩ := by
  intro content other t s counter digest digest' entry files c
  have ht : t.Proper := proper_trio
  have hfiles : s.files t (["."].map Path.ofString) = .ok files := files_trio
  have hcounter : s.counter = .ok counter := rfl
  have ha : lineEntry "a" content = entry "a" digest := by decide +kernel
  have hb : lineEntry "b" content = entry "b" digest := by decide +kernel
  have hc : lineEntry "c" other = entry "c" digest' := by decide +kernel
  have htake : s.take t (["."].map Path.ofString) = .ok c := by
    have htrio := take_trio
    rwa [ha, hc] at htrio
  have hcounted : counter.counted t files =
      [entry "a" digest, entry "b" digest, entry "c" digest'] := by
    have htrio := counted_trio
    rwa [ha, hb, hc] at htrio
  have hlisted : c.files = [entry "a" digest, entry "c" digest'] :=
    (Totals.holds_ofList _).files_census.trans (List.mergeSort_of_pairwise (by decide))
  obtain ⟨found, chosen, hcollected, hchosen, -, -, -, -, -, hleast, hheld, hsums, -⟩ :=
    census_of_take s ht htake
  cases hfiles.symm.trans hcollected
  cases hcounter.symm.trans hchosen
  rw [hcounted] at hleast
  have hsome : (entry "b" digest).contentHash ≠ none := Option.some_ne_none digest
  obtain ⟨r, hr, hhash, hpath, honly⟩ := hleast rfl (entry "b" digest) (by simp) hsome
  have happart : ∀ a ∈ contents t files, ∀ b ∈ contents t files,
      Digest.hex (Digest.sha256 a) = Digest.hex (Digest.sha256 b) → a = b := by
    have hcontents : contents t files = [content, content, other] := contents_trio
    rw [hcontents]
    decide +kernel
  have hholds : entry "b" digest ∈ holding counter t files content :=
    mem_holding_iff.mpr ⟨.ofString "b", by decide, read_trio.2.1, hb ▸ counts_trio.2.1⟩
  obtain ⟨q, hq, hqholds, hqpath, -⟩ := hheld rfl happart content _ hholds
  refine ⟨ht, htake, hlisted, hfiles, hcounter, rfl, hsome,
    ⟨r, hr, hhash, hpath (entry "b" digest) (by simp) rfl, honly⟩, happart, hholds,
    ⟨q, hq, hqholds, hqpath _ hholds⟩, hsums, ?_⟩
  decide

end Survey

end LineCensus
