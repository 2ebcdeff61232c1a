import LineCensus.Format.Sloccount
import LineCensus.Proofs.Survey.Entries
import LineCensus.Proofs.Text.Decimal

/-!
# The directory of a file in a report

The report for further processing names a directory for each file, which it takes from the text of
the path.  It goes by a slash or a dot in front, but a path without a root is spelled without a dot:
below the current directory no file has a directory in the report.
-/

namespace LineCensus

namespace Format.Sloccount

def column? (line : String) (n : Nat) : Option String :=
  (Text.split '\t' line)[n]?

/-- The first of the directories around a file; a file without any has none. -/
def outermost (directories : List String) : String :=
  directories.head?.getD ""

/-- A directory is named only for a path from the root, and it is the first one there. -/
theorem firstDirectory_text {p : Path} (hp : p.Proper) :
    firstDirectory p.text = match p.root, p.parts with
      | .slash, first :: _ :: _ => first
      | _, _ => "" := by
  obtain ⟨root, parts⟩ := p
  cases parts with
  | nil => cases root <;> decide
  | cons first rest =>
    have hsplit : Text.split '/' ("/".intercalate (first :: rest)) = first :: rest :=
      Path.split_intercalate (List.cons_ne_nil _ _) hp
    obtain ⟨hne, hdot, -⟩ := hp first List.mem_cons_self
    cases root with
    | relative =>
      rw [Path.text_relative (List.cons_ne_nil first rest), firstDirectory, hsplit]
      rcases rest with _ | ⟨second, _ | ⟨third, more⟩⟩ <;> simp [hne, hdot]
    | slash =>
      have htext : Path.text ⟨.slash, first :: rest⟩ = "/" ++ "/".intercalate (first :: rest) :=
        rfl
      rw [htext, firstDirectory, Path.split_slash_append, hsplit]
      rcases rest with _ | ⟨second, more⟩ <;> simp
    | doubleSlash =>
      have htext : Path.text ⟨.doubleSlash, first :: rest⟩ =
          "/" ++ ("/" ++ "/".intercalate (first :: rest)) := by
        rw [← String.append_assoc]
        rfl
      rw [htext, firstDirectory, Path.split_slash_append, Path.split_slash_append, hsplit]
      simp

theorem toList_fileLine (r : FileEntry) : (fileLine r).toList =
    (toString r.code).toList ++ '\t' :: (r.language.toList ++ '\t' ::
      ((firstDirectory r.path).toList ++ '\t' :: r.path.toList)) := by
  rw [fileLine, String.toList_intercalate]
  simp [List.intercalate]

theorem column?_fileLine {r : FileEntry} (hlanguage : '\t' ∉ r.language.toList)
    (hdirectory : '\t' ∉ (firstDirectory r.path).toList) :
    column? (fileLine r) 2 = some (firstDirectory r.path) := by
  have hcode : '\t' ∉ (toString r.code).toList := Text.not_mem_toString rfl (by decide) r.code
  rw [column?, Text.split, toList_fileLine, Text.splitAt_append_cons hcode,
    Text.splitAt_append_cons hlanguage, Text.splitAt_append_cons hdirectory]
  simp

end Format.Sloccount

namespace Survey

open Format.Sloccount

variable {s : Survey} {t : FileTree} {entries : List (String × FileNode)} {c : Census}

/-- A counted file of the current directory has the path that leads to it from there. -/
theorem exists_finds_of_take (hroot : t.get (.ofString ".") = .ok (.directory entries))
    (h : s.take t [.ofString "."] = .ok c) {r : FileEntry} (hr : r ∈ c.files) :
    ∃ rules names, Walk.Finds rules [] entries names ∧ r.path = Path.text { parts := names } := by
  obtain ⟨files, counter, hfiles, -, hcounted⟩ := exists_mem_counted h hr
  obtain ⟨p, hp, hcount⟩ := FileCounter.mem_counted.mp hcounted
  obtain ⟨q, hq, found, hfound, hmem⟩ := ((FileTree.collects_of_collect hfiles).reached p hp).1
  rw [List.mem_singleton.mp hq] at hfound
  obtain ⟨rules, -, hiff⟩ := FileTree.filesAt_of_directory hroot hfound
  obtain ⟨names, hfinds, rfl⟩ := (hiff p).mp hmem
  exact ⟨_, names, hfinds, FileCounter.path_of_count hcount⟩

/-- No file that is counted in the current directory has a directory in the report: what is said
there is right for the files directly in it, and for no other. -/
theorem directory_of_take (ht : t.Proper)
    (hroot : t.get (.ofString ".") = .ok (.directory entries))
    (h : s.take t [.ofString "."] = .ok c) {r : FileEntry} (hr : r ∈ c.files) :
    ∃ rules outer name, Walk.Finds rules [] entries (outer ++ [name]) ∧
      r.path = "/".intercalate (outer ++ [name]) ∧
      fileLine r = toString r.code ++ "\t" ++ r.language ++ "\t" ++ "" ++ "\t" ++ r.path ∧
      ('\t' ∉ r.language.toList → column? (fileLine r) 2 = some "" ∧
        (column? (fileLine r) 2 = some (outermost outer) ↔ outer = [])) := by
  obtain ⟨rules, names, hfinds, hpath⟩ := exists_finds_of_take hroot h hr
  have hnames : ∀ part ∈ names, IsComponent part :=
    hfinds.components (FileTree.proper_get ht hroot)
  obtain ⟨outer, name, inner, content, rfl, -⟩ := id hfinds
  have hdirectory : firstDirectory r.path = "" := by
    rw [hpath, firstDirectory_text (p := { parts := outer ++ [name] }) hnames]
  rw [Path.text_relative (by simp)] at hpath
  refine ⟨rules, outer, name, hfinds, hpath, ?_, ?_⟩
  · rw [← String.toList_inj, toList_fileLine, hdirectory]
    simp
  · intro hlanguage
    have hcolumn : column? (fileLine r) 2 = some "" := by
      rw [column?_fileLine hlanguage (by simp [hdirectory]), hdirectory]
    refine ⟨hcolumn, ?_⟩
    rw [hcolumn, Option.some.injEq]
    cases outer with
    | nil => simp [outermost]
    | cons first rest =>
      have hfirst : first ≠ "" := (hnames first (by simp)).1
      simpa [outermost] using Ne.symm hfirst

def nested : FileTree where
  root := [("b", .file [0x61, 0x0a]), ("src", .directory [("a", .file [0x61, 0x0a])])]

def oneLine (path : String) : FileEntry where
  path := path
  language := "Unknown"
  code := 1
  contentHash := some (Digest.hex (Digest.sha256 [0x61, 0x0a]))

def everyFile : Survey where
  options := { countUnknown := true }
  encoder := List.length

theorem take_nested : everyFile.take nested [.ofString "."] =
    .ok (Census.ofEntries [oneLine "b", oneLine "src/a"]) := by
  let counter := everyFile.counterFor ⟨[], [], []⟩
  have hfiles : everyFile.files nested [.ofString "."] =
    .ok [.ofString "b", .ofString "src/a"] := by cbv
  have hcount : ∀ path, path = "b" ∨ path = "src/a" →
      counter.count nested (.ofString path) = .ok (some (oneLine path)) := by
    intro path hpath
    have hread : nested.read (.ofString path) = .ok [0x61, 0x0a] := by
      rcases hpath with rfl | rfl <;> cbv
    have hgrammar : counter.grammarAt nested (.ofString path) = .ok (some fallbackGrammar) := by
      rw [FileCounter.grammarAt_of_read hread]
      rcases hpath with rfl | rfl <;> decide
    refine FileCounter.count_of_read hread hgrammar ?_
    rcases hpath with rfl | rfl <;> rfl
  have hcounts : counter.Counts nested [.ofString "b", .ofString "src/a"] :=
    List.forall_mem_cons.mpr ⟨⟨_, hcount _ (.inl rfl)⟩, List.forall_mem_singleton.mpr
      ⟨_, hcount _ (.inr rfl)⟩⟩
  have hkept : everyFile.kept (counter.counted nested [.ofString "b", .ofString "src/a"]) =
      [oneLine "b", oneLine "src/a"] := by
    rw [FileCounter.counted, List.filterMap_cons,
      FileCounter.entryAt_eq_some.mpr (hcount _ (.inl rfl)), List.filterMap_cons,
      FileCounter.entryAt_eq_some.mpr (hcount _ (.inr rfl))]
    exact List.mergeSort_of_pairwise (by decide)
  exact take_eq_ok.mpr ⟨_, counter, hfiles, rfl, rfl, hcounts, by rw [hkept]⟩

theorem mem_files_nested {path : String} (hpath : path = "b" ∨ path = "src/a") :
    oneLine path ∈ (Census.ofEntries [oneLine "b", oneLine "src/a"]).files := by
  rw [Census.ofEntries, (Totals.holds_ofList _).lists.perm.mem_iff]
  rcases hpath with rfl | rfl <;> simp

theorem directory_of_take_nested :
    nested.Proper ∧ nested.get (.ofString ".") = .ok (.directory nested.root) ∧
    ∃ c, everyFile.take nested [.ofString "."] = .ok c ∧
      ∀ path, path = "b" ∨ path = "src/a" → oneLine path ∈ c.files ∧
        column? (fileLine (oneLine path)) 2 = some "" := by
  have ht : nested.Proper := by
    simp [FileTree.Proper, nested, FileNode.ProperEntries, IsComponent]
  have hroot : nested.get (.ofString ".") = .ok (.directory nested.root) := by cbv
  refine ⟨ht, hroot, _, take_nested, fun path hpath => ?_⟩
  have hmem := mem_files_nested hpath
  have hlanguage : '\t' ∉ "Unknown".toList := by decide
  obtain ⟨rules, outer, name, -, -, -, hcolumn⟩ := directory_of_take ht hroot take_nested hmem
  exact ⟨hmem, (hcolumn hlanguage).1⟩

/-- The file is in the directory `src`, of which its line says nothing. -/
theorem directory_missing : ∃ c, everyFile.take nested [.ofString "."] = .ok c ∧
    oneLine "src/a" ∈ c.files ∧ column? (fileLine (oneLine "src/a")) 2 ≠ some "src" := by
  refine ⟨_, take_nested, mem_files_nested (.inr rfl), ?_⟩
  rw [column?_fileLine (by decide) (by decide)]
  decide

end Survey

end LineCensus
