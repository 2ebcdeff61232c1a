import LineCensus.Proofs.Files.Counted
import LineCensus.Proofs.Survey.Entries

/-!
# Tokens

Tokens are counted beside the lines.  Taking the numbers of tokens out of entries and sums goes
through every step of a survey, so that counting them changes nothing else.
-/

namespace LineCensus

/-! ## Sums without tokens -/

def Tally.withoutTokens (t : Tally) : Tally :=
  { t with tokens := 0 }

theorem Tally.withoutTokens_add (a b : Tally) :
    (a + b).withoutTokens = a.withoutTokens + b.withoutTokens := rfl

def FileEntry.withoutTokens (r : FileEntry) : FileEntry :=
  { r with tokens := 0 }

def LanguageEntry.withoutTokens (row : LanguageEntry) : LanguageEntry :=
  { row with tally := row.tally.withoutTokens }

/-- The outcome, with no tokens of files, of languages or of all. -/
def Census.withoutTokens (c : Census) : Census where
  files := c.files.map FileEntry.withoutTokens
  languages := c.languages.map LanguageEntry.withoutTokens
  total := c.total.withoutTokens

namespace Totals

def withoutTokens (a : Totals) : Totals where
  files := a.files.map FileEntry.withoutTokens
  languages := a.languages.map fun (name, tally) => (name, tally.withoutTokens)
  total := a.total.withoutTokens

theorem withoutTokens_addTo (languages : Table Tally) (name : String) (t : Tally) :
    (addTo languages name t).map (fun (name, tally) => (name, tally.withoutTokens)) =
      addTo (languages.map fun (name, tally) => (name, tally.withoutTokens)) name
        t.withoutTokens := by
  rw [addTo, addTo, Table.map_set, Table.find?_map, Tally.withoutTokens_add]
  cases languages.find? name <;> rfl

theorem withoutTokens_add (a : Totals) (r : FileEntry) :
    (a.add r).withoutTokens = a.withoutTokens.add r.withoutTokens := by
  simp only [add, withoutTokens, withoutTokens_addTo, List.map_append]
  rfl

theorem withoutTokens_foldl (entries : List FileEntry) (a : Totals) :
    (entries.foldl add a).withoutTokens =
      (entries.map FileEntry.withoutTokens).foldl add a.withoutTokens := by
  induction entries generalizing a with
  | nil => rfl
  | cons r rest ih => rw [List.foldl_cons, ih, withoutTokens_add, List.map_cons, List.foldl_cons]

theorem withoutTokens_census (a : Totals) :
    a.census.withoutTokens = a.withoutTokens.census := by
  have hfiles : (a.files.mergeSort fileLe).map FileEntry.withoutTokens =
      (a.files.map FileEntry.withoutTokens).mergeSort fileLe :=
    List.map_mergeSort fun r _ q _ => rfl
  have hlanguages : (a.languages.mergeSort fun x y => x.1 ≤ y.1).map
        (fun (name, tally) => (name, tally.withoutTokens)) =
      (a.languages.map fun (name, tally) => (name, tally.withoutTokens)).mergeSort
        fun x y => x.1 ≤ y.1 :=
    List.map_mergeSort fun x _ y _ => rfl
  simp only [census, Census.withoutTokens, withoutTokens, ← hfiles, ← hlanguages, List.map_map]
  rfl

end Totals

theorem Census.withoutTokens_ofEntries (entries : List FileEntry) :
    (ofEntries entries).withoutTokens = ofEntries (entries.map FileEntry.withoutTokens) := by
  rw [ofEntries, Totals.withoutTokens_census, Totals.ofList, Totals.withoutTokens_foldl]
  rfl

/-! ## Surveys without tokens -/

def FileCounter.countingTokens (c : FileCounter) (counts : Bool) : FileCounter :=
  { c with countTokens := counts }

theorem FileCounter.withoutTokens_entryFor (c : FileCounter) (counts : Bool) (p : Path)
    (g : Grammar) (content : List UInt8) :
    ((c.countingTokens counts).entryFor p g content).map FileEntry.withoutTokens =
      (c.countingTokens false).entryFor p g content := by
  rw [entryFor, entryFor]
  show Except.map _ ((entryOfContent p.text g c.lineLimit content).map _) =
    (entryOfContent p.text g c.lineLimit content).map _
  cases entryOfContent p.text g c.lineLimit content <;> rfl

theorem FileCounter.withoutTokens_measure (c : FileCounter) (counts : Bool) (t : FileTree)
    (p : Path) (g : Grammar) :
    ((c.countingTokens counts).measure t p g).map FileEntry.withoutTokens =
      (c.countingTokens false).measure t p g := by
  rw [measure, measure]
  cases t.read p with
  | error e => rfl
  | ok content => exact c.withoutTokens_entryFor counts p g content

/-- Whether a file is counted, and as what, is the same but for its tokens. -/
theorem FileCounter.withoutTokens_count (c : FileCounter) (counts : Bool) (t : FileTree)
    (p : Path) :
    ((c.countingTokens counts).count t p).map (Option.map FileEntry.withoutTokens) =
      (c.countingTokens false).count t p := by
  rw [count, count]
  show Except.map _ ((c.grammarAt t p).mapError _ >>= _) = (c.grammarAt t p).mapError _ >>= _
  cases c.grammarAt t p with
  | error fault => rfl
  | ok found =>
    cases found with
    | none => rfl
    | some g =>
      show Except.map _ ((((c.countingTokens counts).measure t p g).mapError _).map _) =
        (((c.countingTokens false).measure t p g).mapError _).map _
      rw [← c.withoutTokens_measure counts]
      cases (c.countingTokens counts).measure t p g <;> rfl

namespace Survey

def countingTokens (s : Survey) (counts : Bool) : Survey :=
  { s with options := { s.options with countTokens := counts } }

theorem withoutTokens_dropRepeated (seen : List String) (entries : List FileEntry) :
    (dropRepeated seen entries).map FileEntry.withoutTokens =
      dropRepeated seen (entries.map FileEntry.withoutTokens) := by
  induction entries generalizing seen with
  | nil => rfl
  | cons r rest ih =>
    have hhash : r.withoutTokens.contentHash = r.contentHash := rfl
    rw [List.map_cons, dropRepeated_cons, dropRepeated_cons, hhash, ← ih, ← ih]
    split <;> rfl

theorem withoutTokens_kept (s : Survey) (counted : List FileEntry) :
    (s.kept counted).map FileEntry.withoutTokens =
      s.kept (counted.map FileEntry.withoutTokens) := by
  have hsorted : (counted.mergeSort fun a b => a.path ≤ b.path).map FileEntry.withoutTokens =
      (counted.map FileEntry.withoutTokens).mergeSort fun a b => a.path ≤ b.path :=
    List.map_mergeSort fun r _ q _ => rfl
  rw [kept, kept]
  split
  · rw [withoutTokens_dropRepeated, hsorted]
  · exact hsorted

theorem withoutTokens_entriesOf (counter : FileCounter) (counts : Bool) (t : FileTree)
    (files : List Path) :
    (entriesOf (counter.countingTokens counts) t files).map (List.map FileEntry.withoutTokens) =
      entriesOf (counter.countingTokens false) t files := by
  have hcounts : (files.mapM ((counter.countingTokens counts).count t)).map
        (List.map (Option.map FileEntry.withoutTokens)) =
      files.mapM ((counter.countingTokens false).count t) := by
    rw [Fallible.map_mapM]
    exact Fallible.mapM_congr fun p _ => counter.withoutTokens_count counts t p
  rw [entriesOf, entriesOf, ← hcounts]
  cases files.mapM ((counter.countingTokens counts).count t) with
  | error e => rfl
  | ok found => exact congrArg Except.ok List.reduceOption_map.symm

theorem withoutTokens_take (s : Survey) (counts : Bool) (t : FileTree) (paths : List Path) :
    ((s.countingTokens counts).take t paths).map Census.withoutTokens =
      (s.countingTokens false).take t paths := by
  rw [take, take]
  show Except.map _ ((s.files t paths).mapError _ >>= _) = (s.files t paths).mapError _ >>= _
  cases s.files t paths with
  | error e => rfl
  | ok files =>
    show Except.map _ ((s.choice.map _).mapError _ >>= _) = (s.choice.map _).mapError _ >>= _
    cases s.choice with
    | error fault => rfl
    | ok choice =>
      let counter := s.counterFor choice
      show Except.map _ (if s.hasWorkers files.length then
          (entriesOf (counter.countingTokens counts) t files).mapError _ >>= _ else _) =
        if s.hasWorkers files.length then
          (entriesOf (counter.countingTokens false) t files).mapError _ >>= _ else _
      split
      · rw [← withoutTokens_entriesOf counter counts]
        cases entriesOf (counter.countingTokens counts) t files with
        | error e => rfl
        | ok counted =>
          refine congrArg Except.ok ?_
          rw [Census.withoutTokens_ofEntries, withoutTokens_kept]
          rfl
      · rfl

/-- Counting tokens, by whatever encoder, changes nothing but the numbers of tokens: the survey
fails as it does without, or has the same files with the same lines, digests and errors, in the
same order, and the same sums.  Without, no tokens are counted. -/
theorem take_countingTokens (s : Survey) (t : FileTree) (paths : List Path) :
    let counting := (s.countingTokens true).take t paths
    let without := (s.countingTokens false).take t paths
    counting.map Census.withoutTokens = without.map Census.withoutTokens ∧
      without.map Census.withoutTokens = without := by
  intro counting without
  have hcounting := withoutTokens_take s true t paths
  have hwithout := withoutTokens_take s false t paths
  exact ⟨hcounting.trans hwithout.symm, hwithout⟩

end Survey

end LineCensus
