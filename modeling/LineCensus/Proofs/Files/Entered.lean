import LineCensus.Collect
import LineCensus.Proofs.Fallible

/-!
# Directories that are entered

A walk gets to a directory through the directories around it, all of which it enters.  What it finds
are the files that it keeps in the directories that it gets to.
-/

namespace LineCensus

namespace Walk

variable {r : Rules} {above names : List String} {entries inner : List (String × FileNode)}
  {found files deeper : List (List String)} {name : String}

/-! ## What a walk finds -/

/-- The walk gets from a directory to another one, which has these names below it; `above` are the
names around the first. -/
inductive Enters (r : Rules) : List String → List (String × FileNode) → List String →
    List (String × FileNode) → Prop where
  | here (above : List String) (entries : List (String × FileNode)) :
    Enters r above entries [] entries
  | inside {above names : List String} {entries inner last : List (String × FileNode)}
    {name : String} (hmem : (name, .directory inner) ∈ entries)
    (henters : r.enters above name = .ok true) (h : Enters r (above ++ [name]) inner names last) :
    Enters r above entries (name :: names) last

/-- The walk finds a file that has these names below a directory: it gets to the directory of the
file, and keeps the file there. -/
def Finds (r : Rules) (above : List String) (entries : List (String × FileNode))
    (names : List String) : Prop :=
  ∃ outer name inner content, names = outer ++ [name] ∧ Enters r above entries outer inner ∧
    (name, .file content) ∈ inner ∧ r.keepsFile (above ++ outer) name = .ok true

def FindsFile (r : Rules) (above : List String) (entries : List (String × FileNode))
    (names : List String) : Prop :=
  ∃ name content, (name, .file content) ∈ entries ∧ r.keepsFile above name = .ok true ∧
    names = [name]

def FindsBelow (r : Rules) (above : List String) (entries : List (String × FileNode))
    (names : List String) : Prop :=
  ∃ name inner rest, (name, .directory inner) ∈ entries ∧ r.enters above name = .ok true ∧
    Finds r (above ++ [name]) inner rest ∧ names = name :: rest

theorem finds_iff :
    Finds r above entries names ↔
      FindsFile r above entries names ∨ FindsBelow r above entries names := by
  constructor
  · rintro ⟨outer, name, last, content, rfl, henters, hfile, hkept⟩
    cases henters with
    | here => exact .inl ⟨name, content, hfile, by simpa using hkept, rfl⟩
    | @inside _ middle _ inner _ first hmem hfirst h =>
      refine .inr ⟨first, inner, middle ++ [name], hmem, hfirst, ?_, rfl⟩
      exact ⟨middle, name, last, content, rfl, h, hfile, by simpa using hkept⟩
  · rintro (⟨name, content, hfile, hkept, rfl⟩ | ⟨first, inner, rest, hmem, hfirst, hrest, rfl⟩)
    · exact ⟨[], name, entries, content, rfl, .here above entries, hfile, by simpa using hkept⟩
    · obtain ⟨outer, name, last, content, rfl, henters, hfile, hkept⟩ := hrest
      exact ⟨first :: outer, name, last, content, rfl, .inside hmem hfirst henters, hfile,
        by simpa using hkept⟩

theorem findsFile_cons {node : FileNode} {rest : List (String × FileNode)} :
    FindsFile r above ((name, node) :: rest) names ↔
      ((∃ content, node = .file content) ∧ r.keepsFile above name = .ok true ∧ names = [name]) ∨
        FindsFile r above rest names := by
  constructor
  · rintro ⟨other, content, hmem, hkept, rfl⟩
    rcases List.mem_cons.mp hmem with heq | hmem
    · cases heq
      exact .inl ⟨⟨content, rfl⟩, hkept, rfl⟩
    · exact .inr ⟨other, content, hmem, hkept, rfl⟩
  · rintro (⟨⟨content, rfl⟩, hkept, rfl⟩ | ⟨other, content, hmem, hkept, rfl⟩)
    · exact ⟨name, content, List.mem_cons_self, hkept, rfl⟩
    · exact ⟨other, content, List.mem_cons_of_mem _ hmem, hkept, rfl⟩

theorem findsBelow_cons {node : FileNode} {rest : List (String × FileNode)} :
    FindsBelow r above ((name, node) :: rest) names ↔
      (∃ inner tail, node = .directory inner ∧ r.enters above name = .ok true ∧
        Finds r (above ++ [name]) inner tail ∧ names = name :: tail) ∨
        FindsBelow r above rest names := by
  constructor
  · rintro ⟨other, inner, tail, hmem, hfinds⟩
    rcases List.mem_cons.mp hmem with heq | hmem
    · cases heq
      exact .inl ⟨inner, tail, rfl, hfinds⟩
    · exact .inr ⟨other, inner, tail, hmem, hfinds⟩
  · rintro (⟨inner, tail, rfl, hfinds⟩ | ⟨other, inner, tail, hmem, hfinds⟩)
    · exact ⟨name, inner, tail, List.mem_cons_self, hfinds⟩
    · exact ⟨other, inner, tail, List.mem_cons_of_mem _ hmem, hfinds⟩

theorem mem_filesOf_iff (h : filesOf r above entries = .ok found) :
    names ∈ found ↔ ∃ inner, FindsFile r above entries inner ∧ names = above ++ inner := by
  induction entries generalizing found with
  | nil =>
    cases h
    simp [FindsFile]
  | cons first rest ih =>
    obtain ⟨name, node⟩ := first
    cases node with
    | file content =>
      obtain ⟨keep, hkeep, h⟩ := Fallible.bind_eq_ok.mp h
      obtain ⟨others, hothers, ⟨⟩⟩ := Fallible.bind_eq_ok.mp h
      cases keep <;> simp [findsFile_cons, hkeep, ih hothers, or_and_right, exists_or]
    | link target =>
      obtain ⟨keep, -, h⟩ := Fallible.bind_eq_ok.mp h
      simp [findsFile_cons, ih h]
    | directory inner => simp [findsFile_cons, ih h]

theorem below_directory {rest : List (String × FileNode)}
    (h : below r above ((name, .directory inner) :: rest) = .ok found) :
    ∃ inside others,
      (r.enters above name = .ok false ∧ inside = [] ∨
        r.enters above name = .ok true ∧ ∃ files deeper,
          filesOf r (above ++ [name]) inner = .ok files ∧
          below r (above ++ [name]) inner = .ok deeper ∧ inside = files ++ deeper) ∧
      below r above rest = .ok others ∧ found = inside ++ others := by
  rw [below] at h
  obtain ⟨enters, henters, h⟩ := Fallible.bind_eq_ok.mp h
  cases enters with
  | false =>
    simp only [Bool.false_eq_true, if_false] at h
    obtain ⟨inside, ⟨⟩, h⟩ := Fallible.bind_eq_ok.mp h
    obtain ⟨others, hothers, ⟨⟩⟩ := Fallible.bind_eq_ok.mp h
    exact ⟨[], others, .inl ⟨henters, rfl⟩, hothers, rfl⟩
  | true =>
    simp only [if_true] at h
    obtain ⟨files, hfiles, h⟩ := Fallible.bind_eq_ok.mp h
    obtain ⟨deeper, hdeeper, h⟩ := Fallible.bind_eq_ok.mp h
    obtain ⟨inside, ⟨⟩, h⟩ := Fallible.bind_eq_ok.mp h
    obtain ⟨others, hothers, ⟨⟩⟩ := Fallible.bind_eq_ok.mp h
    exact ⟨files ++ deeper, others, .inr ⟨henters, files, deeper, hfiles, hdeeper, rfl⟩, hothers,
      rfl⟩

/-- What is found in and below a directory, from what is found below its subdirectories. -/
theorem mem_directory_iff (hfiles : filesOf r above entries = .ok files)
    (hdeeper : names ∈ deeper ↔
      ∃ inner, FindsBelow r above entries inner ∧ names = above ++ inner) :
    names ∈ files ++ deeper ↔ ∃ inner, Finds r above entries inner ∧ names = above ++ inner := by
  rw [List.mem_append, mem_filesOf_iff hfiles, hdeeper, ← exists_or]
  simp only [finds_iff, or_and_right]

theorem mem_below_iff (h : below r above entries = .ok found) :
    names ∈ found ↔ ∃ inner, FindsBelow r above entries inner ∧ names = above ++ inner := by
  induction above, entries using below.induct generalizing found with
  | case1 above =>
    rw [below] at h
    cases h
    simp [FindsBelow]
  | case2 above name inner rest ihrest ihinner =>
    obtain ⟨inside, others, hinside, hothers, rfl⟩ := below_directory h
    rw [List.mem_append, ihrest hothers]
    simp only [findsBelow_cons, or_and_right, exists_or]
    refine or_congr_left ?_
    rcases hinside with ⟨henters, rfl⟩ | ⟨henters, files, deeper, hfiles, hdeeper, rfl⟩
    · simp [henters]
    · rw [mem_directory_iff hfiles (ihinner hdeeper)]
      simp [henters]
  | case3 above entry rest hentry ih =>
    obtain ⟨name, node⟩ := entry
    rw [below.eq_3 r above (name, node) rest hentry] at h
    have hnot : ∀ inner, node ≠ .directory inner := fun inner heq =>
      hentry name inner (by rw [heq])
    simp [findsBelow_cons, hnot, ih h]

theorem mem_walk_iff (h : walk r entries = .ok found) :
    names ∈ found ↔ Finds r [] entries names := by
  obtain ⟨files, hfiles, h⟩ := Fallible.bind_eq_ok.mp h
  obtain ⟨deeper, hdeeper, ⟨⟩⟩ := Fallible.bind_eq_ok.mp h
  rw [mem_directory_iff hfiles (mem_below_iff hdeeper)]
  simp

/-! ## What is passed over -/

theorem keepsFile_iff : r.keepsFile above name = .ok true ↔
    r.visible name = true ∧ r.ignores (above ++ [name]) = .ok false := by
  rw [Rules.keepsFile]
  split
  · next hvisible => simp [Fallible.map_eq_ok, hvisible]
  · next hvisible => simp [hvisible]

theorem enters_iff : r.enters above name = .ok true ↔
    name ∉ versionControl ∧ r.visible name = true ∧ r.ignores (above ++ [name]) = .ok false := by
  rw [Rules.enters, ← keepsFile_iff, Rules.keepsFile]
  by_cases hcontrol : name ∈ versionControl <;> simp [hcontrol]

end Walk

/-! ## The files that a directory stands for -/

namespace FileTree

variable {t : FileTree} {o : WalkOptions} {root : Path} {entries : List (String × FileNode)}
  {files : List Path}

/-- A directory stands for what a walk by the rules of its ignore file finds. -/
theorem filesAt_of_directory (hroot : t.get root = .ok (.directory entries))
    (hfiles : t.filesAt o root = .ok files) :
    ∃ rules, t.ignoreRules o root = .ok rules ∧ ∀ q, q ∈ files ↔
      ∃ names, Walk.Finds ⟨o.includeHidden, Ignore.ignores rules⟩ [] entries names ∧
        q = { root with parts := root.parts ++ names } := by
  rw [filesAt, hroot, Fallible.mapError_eq_ok] at hfiles
  obtain ⟨rules, hrules, hfiles⟩ := Fallible.bind_eq_ok.mp hfiles
  obtain ⟨found, hfound, ⟨⟩⟩ := Fallible.bind_eq_ok.mp hfiles
  refine ⟨rules, hrules, fun q => ?_⟩
  simp only [List.mem_map, Walk.mem_walk_iff hfound, eq_comm]

theorem mem_filesAt {q : Path} (hfiles : t.filesAt o root = .ok files) (hq : q ∈ files) :
    (q = root ∧ ∃ node, t.get root = .ok node ∧ ∀ entries, node ≠ .directory entries) ∨
      ∃ entries rules names, t.get root = .ok (.directory entries) ∧
        t.ignoreRules o root = .ok rules ∧
        Walk.Finds ⟨o.includeHidden, Ignore.ignores rules⟩ [] entries names ∧
        q = { root with parts := root.parts ++ names } := by
  cases hget : t.get root with
  | error e =>
    rw [filesAt, hget] at hfiles
    cases hfiles
  | ok node =>
    cases node with
    | directory entries =>
      obtain ⟨rules, hrules, hmem⟩ := filesAt_of_directory hget hfiles
      obtain ⟨names, hfinds, hbelow⟩ := (hmem q).mp hq
      exact .inr ⟨entries, rules, names, rfl, hrules, hfinds, hbelow⟩
    | file content | link target =>
      rw [filesAt, hget] at hfiles
      cases hfiles
      exact .inl ⟨List.mem_singleton.mp hq, _, rfl, nofun⟩

end FileTree

end LineCensus
