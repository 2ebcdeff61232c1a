import LineCensus.Proofs.Files.Entered
import LineCensus.Proofs.Files.Lookup

/-!
# Names of version control

No directory with a name of version control is entered, whether or not hidden names are looked at.
A file with such a name is as good as any other hidden file.
-/

namespace LineCensus

namespace Walk

variable {r : Rules} {above names : List String} {entries : List (String × FileNode)}
  {name : String}

theorem isHidden_of_versionControl (h : name ∈ versionControl) : isHidden name = true := by
  have hall : ∀ name ∈ versionControl, isHidden name = true := by decide +kernel
  exact hall name h

theorem visible_of_versionControl (h : name ∈ versionControl) :
    r.visible name = r.includeHidden := by
  rw [Rules.visible, isHidden_of_versionControl h, Bool.not_true, Bool.or_false]

theorem Enters.not_versionControl {last : List (String × FileNode)}
    (h : Enters r above entries names last) : ∀ part ∈ names, part ∉ versionControl := by
  induction h with
  | here => exact List.forall_mem_nil _
  | inside _ henters _ ih => exact List.forall_mem_cons.mpr ⟨(enters_iff.mp henters).1, ih⟩

/-- A file with a name of version control is found in a directory that the walk gets to, unless
hidden files are passed over or it is ignored. -/
theorem finds_versionControl_iff (r : Rules) (above : List String)
    (entries : List (String × FileNode)) (names : List String) (h : name ∈ versionControl) :
    Finds r above entries (names ++ [name]) ↔
      r.includeHidden = true ∧ ∃ inner content, Enters r above entries names inner ∧
        (name, .file content) ∈ inner ∧ r.ignores (above ++ names ++ [name]) = .ok false := by
  constructor
  · rintro ⟨outer, last, inner, content, heq, henters, hfile, hkept⟩
    obtain ⟨rfl, ⟨⟩⟩ := List.append_inj' heq rfl
    rw [keepsFile_iff, visible_of_versionControl h] at hkept
    exact ⟨hkept.1, inner, content, henters, hfile, hkept.2⟩
  · rintro ⟨hincluded, inner, content, henters, hfile, hignores⟩
    refine ⟨names, name, inner, content, rfl, henters, hfile, ?_⟩
    rw [keepsFile_iff, visible_of_versionControl h]
    exact ⟨hincluded, hignores⟩

end Walk

namespace FileTree

variable {t : FileTree} {o : WalkOptions} {root : Path} {entries : List (String × FileNode)}
  {files : List Path}

/-- No file is found in a directory of version control, hidden names or not.  A file that bears such
a name itself is found with the hidden ones, unless it is ignored. -/
theorem filesAt_versionControl (hroot : t.get root = .ok (.directory entries))
    (hfiles : t.filesAt o root = .ok files) :
    (∀ q ∈ files, ∃ outer name, q = { root with parts := root.parts ++ (outer ++ [name]) } ∧
      (∀ part ∈ outer, part ∉ Walk.versionControl) ∧
      (name ∈ Walk.versionControl → o.includeHidden = true)) ∧
    ∃ rules, t.ignoreRules o root = .ok rules ∧ ∀ outer, ∀ name ∈ Walk.versionControl,
      ({ root with parts := root.parts ++ (outer ++ [name]) } ∈ files ↔
        o.includeHidden = true ∧ ∃ inner content,
          Walk.Enters ⟨o.includeHidden, Ignore.ignores rules⟩ [] entries outer inner ∧
          (name, .file content) ∈ inner ∧ Ignore.ignores rules (outer ++ [name]) = .ok false) := by
  obtain ⟨rules, hrules, hmem⟩ := filesAt_of_directory hroot hfiles
  refine ⟨fun q hq => ?_, rules, hrules, fun outer name hname => ?_⟩
  · obtain ⟨_, hfinds, rfl⟩ := (hmem q).mp hq
    obtain ⟨outer, name, inner, content, rfl, henters, -, hkept⟩ := hfinds
    refine ⟨outer, name, rfl, henters.not_versionControl, fun hname => ?_⟩
    rw [Walk.keepsFile_iff, Walk.visible_of_versionControl hname] at hkept
    exact hkept.1
  · refine Iff.trans ?_ (Walk.finds_versionControl_iff
      ⟨o.includeHidden, Ignore.ignores rules⟩ [] entries outer hname)
    rw [hmem]
    constructor
    · rintro ⟨names, hfinds, heq⟩
      rwa [List.append_cancel_left (congrArg Path.parts heq)]
    · exact fun hfinds => ⟨_, hfinds, rfl⟩

/-- A repository inside another one: what bears the name of a directory of version control there is
a file. -/
theorem filesAt_versionControl_nested :
    let inner : List (String × FileNode) := [(".git", .file []), ("a.py", .file [])]
    let entries : List (String × FileNode) :=
      [(".git", .directory [("config", .file [])]), ("sub", .directory inner)]
    let t : FileTree := { root := entries }
    let hidden : List Path := [.ofString "sub/.git", .ofString "sub/a.py"]
    let shown : List Path := [.ofString "sub/a.py"]
    t.get {} = .ok (.directory entries) ∧ ".git" ∈ Walk.versionControl ∧
      t.filesAt { includeHidden := true } {} = .ok hidden ∧
      (∀ q ∈ hidden, ∃ outer name, q = { parts := outer ++ [name] } ∧
        ∀ part ∈ outer, part ∉ Walk.versionControl) ∧
      { parts := ["sub"] ++ [".git"] } ∈ hidden ∧
      t.filesAt {} {} = .ok shown ∧
      ∀ q ∈ shown, ∃ outer name, q = { parts := outer ++ [name] } ∧
        (∀ part ∈ outer, part ∉ Walk.versionControl) ∧ name ∉ Walk.versionControl := by
  intro inner entries t hidden shown
  have hroot : t.get {} = .ok (.directory entries) := by cbv
  have hhidden : t.filesAt { includeHidden := true } {} = .ok hidden := by cbv
  have hshown : t.filesAt {} {} = .ok shown := by cbv
  have hname : ".git" ∈ Walk.versionControl := by decide
  obtain ⟨houter, rules, hrules, hfound⟩ := filesAt_versionControl hroot hhidden
  have hnorules : t.ignoreRules { includeHidden := true } {} = .ok [] := by cbv
  cases hnorules.symm.trans hrules
  have hentered : Walk.Enters ⟨true, Ignore.ignores []⟩ [] entries ["sub"] inner :=
    .inside (by simp [entries]) rfl (.here _ _)
  refine ⟨hroot, hname, hhidden, fun q hq => ?_, ?_, hshown, fun q hq => ?_⟩
  · obtain ⟨outer, name, hq, hnot, -⟩ := houter q hq
    exact ⟨outer, name, hq, hnot⟩
  · exact (hfound ["sub"] ".git" hname).mpr ⟨rfl, inner, [], hentered, List.mem_cons_self, rfl⟩
  · obtain ⟨outer, name, hq, hnot, hlast⟩ := (filesAt_versionControl hroot hshown).1 q hq
    exact ⟨outer, name, hq, hnot, fun hcontrol => Bool.false_ne_true (hlast hcontrol)⟩

/-- Where hidden names are looked at, a file with a name of version control is collected. -/
theorem collect_versionControl_file :
    let t : FileTree := { root := [(".git", .file []), ("a.py", .file [])] }
    t.collect { includeHidden := true } (fun _ => true) [.ofString "."] =
        .ok [.ofString ".git", .ofString "a.py"] ∧
      (Path.ofString ".git").name ∈ Walk.versionControl := by
  intro t
  exact ⟨by cbv, by decide⟩

end FileTree

end LineCensus
