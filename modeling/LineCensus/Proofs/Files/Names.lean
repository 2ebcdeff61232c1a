import LineCensus.Proofs.Files.Entered
import LineCensus.Proofs.Files.Lookup
import LineCensus.Proofs.Path.Spelling

/-!
# Names in a tree

Entries of a directory have names that can be components of a path.  Trees are made so, and then
every file that is collected has a path that its text spells.
-/

namespace LineCensus

namespace FileNode

/-- The names of entries, and of all entries below them, are components. -/
def ProperEntries : List (String × FileNode) → Prop
  | [] => True
  | (name, .directory inner) :: rest =>
    IsComponent name ∧ ProperEntries inner ∧ ProperEntries rest
  | (name, .file _) :: rest => IsComponent name ∧ ProperEntries rest
  | (name, .link _) :: rest => IsComponent name ∧ ProperEntries rest

def Proper : FileNode → Prop
  | .directory entries => ProperEntries entries
  | _ => True

theorem properEntries_nil : ProperEntries [] := by
  rw [ProperEntries]
  trivial

theorem properEntries_cons {name : String} {node : FileNode} {rest : List (String × FileNode)} :
    ProperEntries ((name, node) :: rest) ↔
      IsComponent name ∧ node.Proper ∧ ProperEntries rest := by
  cases node <;> simp [ProperEntries, Proper]

theorem proper_of_mem {entries : List (String × FileNode)} (h : ProperEntries entries)
    {name : String} {node : FileNode} (hmem : (name, node) ∈ entries) :
    IsComponent name ∧ node.Proper := by
  induction entries with
  | nil => cases hmem
  | cons first rest ih =>
    obtain ⟨hname, hnode, hrest⟩ := properEntries_cons.mp h
    rcases List.mem_cons.mp hmem with rfl | hmem
    · exact ⟨hname, hnode⟩
    · exact ih hrest hmem

theorem isComponent_of_entry {entries : List (String × FileNode)} (h : ProperEntries entries)
    {name : String} {node : FileNode} (hentry : entry? entries name = some node) :
    IsComponent name := by
  have hmem := mem_of_entry? hentry
  exact (proper_of_mem h hmem).1

theorem proper_of_entry {entries : List (String × FileNode)} (h : ProperEntries entries)
    {name : String} {node : FileNode} (hentry : entry? entries name = some node) :
    node.Proper := by
  have hmem := mem_of_entry? hentry
  exact (proper_of_mem h hmem).2

theorem proper_find? {entries : List (String × FileNode)} (h : ProperEntries entries)
    {names : List String} {node : FileNode} (hfind : find? entries names = some node) :
    node.Proper := by
  induction entries, names using find?.induct with
  | case1 entries =>
    cases hfind
    exact h
  | case2 entries name => exact proper_of_entry h hfind
  | case3 entries name rest hrest inner hentry ih =>
    apply ih (proper_of_entry h hentry)
    rwa [find?, hentry] at hfind
    exact hrest
  | case4 entries name rest hrest hentry =>
    rw [find?.eq_3 entries name rest hrest] at hfind
    split at hfind
    · next inner hinner => exact absurd hinner (hentry inner)
    · cases hfind

/-! ## Making trees -/

theorem proper_setEntry {entries : List (String × FileNode)} (h : ProperEntries entries)
    {name : String} (hname : IsComponent name) {node : FileNode} (hnode : node.Proper) :
    ProperEntries (setEntry entries name node) := by
  induction entries with
  | nil => exact properEntries_cons.mpr ⟨hname, hnode, properEntries_nil⟩
  | cons first rest ih =>
    obtain ⟨other, old⟩ := first
    obtain ⟨hother, hold, hrest⟩ := properEntries_cons.mp h
    rw [setEntry]
    split
    · exact properEntries_cons.mpr ⟨hname, hnode, hrest⟩
    · split
      · exact properEntries_cons.mpr ⟨hname, hnode, h⟩
      · exact properEntries_cons.mpr ⟨hother, hold, ih hrest⟩

theorem proper_insert {entries : List (String × FileNode)} (h : ProperEntries entries)
    {names : List String} (hnames : ∀ name ∈ names, IsComponent name) {node : FileNode}
    (hnode : node.Proper) : ProperEntries (insert entries names node) := by
  induction entries, names using insert.induct with
  | case1 entries => exact h
  | case2 entries name => exact proper_setEntry h (hnames name (by simp)) hnode
  | case3 entries name rest hrest inner hentry ih =>
    have hinner : ProperEntries (insert inner rest node) :=
      ih (proper_of_entry h hentry) fun other hother => hnames other (by simp [hother])
    rw [insert.eq_3 entries node name rest hrest, hentry]
    exact proper_setEntry h (hnames name (by simp)) hinner
  | case4 entries name rest hrest hentry ih =>
    have hinner : ProperEntries (insert [] rest node) :=
      ih properEntries_nil fun other hother => hnames other (by simp [hother])
    rw [insert.eq_3 entries node name rest hrest]
    split
    · next inner hfound => exact absurd hfound (hentry inner)
    · exact proper_setEntry h (hnames name (by simp)) hinner

end FileNode

def FileTree.Proper (t : FileTree) : Prop :=
  FileNode.ProperEntries t.root

theorem FileTree.proper_empty (cwd : List String) : ({ cwd } : FileTree).Proper :=
  FileNode.properEntries_nil

theorem Path.mem_collapse {found parts : List String} {name : String}
    (h : name ∈ collapse found parts) : name ∈ found ∨ name ∈ parts := by
  induction parts generalizing found with
  | nil => exact .inl h
  | cons part rest ih =>
    rw [collapse] at h
    split at h
    · rcases ih h with hfound | hrest
      · exact .inl (List.mem_of_mem_tail hfound)
      · exact .inr (List.mem_cons_of_mem part hrest)
    · rcases ih h with hfound | hrest
      · rcases List.mem_cons.mp hfound with rfl | hfound
        · exact .inr List.mem_cons_self
        · exact .inl hfound
      · exact .inr (List.mem_cons_of_mem part hrest)

theorem FileTree.proper_insert {t : FileTree} (ht : t.Proper)
    (hcwd : ∀ name ∈ t.cwd, IsComponent name) {p : Path} (hp : p.Proper) {node : FileNode}
    (hnode : node.Proper) : (t.insert p node).Proper := by
  apply FileNode.proper_insert ht _ hnode
  intro name hname
  rw [Path.absolute] at hname
  split at hname
  · rw [List.mem_reverse] at hname
    rcases Path.mem_collapse hname with hnil | hmem
    · cases hnil
    · rcases List.mem_append.mp hmem with hmem | hmem
      · exact hcwd name hmem
      · exact hp name hmem
  · rw [List.mem_reverse] at hname
    rcases Path.mem_collapse hname with hnil | hmem
    · cases hnil
    · exact hp name hmem

theorem FileTree.proper_get {t : FileTree} (ht : t.Proper) {p : Path} {node : FileNode}
    (hget : t.get p = .ok node) : node.Proper := by
  obtain ⟨place, -, hfind⟩ := locate_of_get hget
  exact FileNode.proper_find? ht hfind

/-! ## Walking -/

namespace Walk

theorem Enters.proper {r : Rules} {above names : List String}
    {entries last : List (String × FileNode)} (h : Enters r above entries names last)
    (hentries : FileNode.ProperEntries entries) :
    (∀ name ∈ names, IsComponent name) ∧ FileNode.ProperEntries last := by
  induction h with
  | here => exact ⟨List.forall_mem_nil _, hentries⟩
  | inside hmem _ _ ih =>
    obtain ⟨hname, hinner⟩ := FileNode.proper_of_mem hentries hmem
    obtain ⟨hnames, hlast⟩ := ih hinner
    exact ⟨List.forall_mem_cons.mpr ⟨hname, hnames⟩, hlast⟩

theorem Finds.components {r : Rules} {above names : List String}
    {entries : List (String × FileNode)} (h : Finds r above entries names)
    (hentries : FileNode.ProperEntries entries) : ∀ name ∈ names, IsComponent name := by
  obtain ⟨outer, name, inner, content, rfl, henters, hfile, -⟩ := h
  obtain ⟨houter, hinner⟩ := henters.proper hentries
  exact List.forall_mem_append.mpr
    ⟨houter, List.forall_mem_singleton.mpr (FileNode.proper_of_mem hinner hfile).1⟩

end Walk

theorem FileTree.proper_of_mem_filesAt {t : FileTree} (ht : t.Proper) {o : WalkOptions} {p : Path}
    (hp : p.Proper) {files : List Path} (h : t.filesAt o p = .ok files) :
    ∀ q ∈ files, q.Proper := by
  intro q hq
  rcases mem_filesAt h hq with ⟨rfl, -⟩ | ⟨entries, rules, names, hget, -, hfinds, rfl⟩
  · exact hp
  · exact List.forall_mem_append.mpr ⟨hp, hfinds.components (proper_get ht hget)⟩

end LineCensus
