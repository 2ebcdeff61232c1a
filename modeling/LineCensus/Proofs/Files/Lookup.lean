import LineCensus.FileTree
import LineCensus.Proofs.Fallible
import Mathlib

/-!
# Nodes that paths lead to

What a path leads to decides what can be read there.  A name in the top directory leads to its
entry.
-/

namespace LineCensus

namespace FileNode

variable {entries : List (String × FileNode)}

theorem entry?_cons (name other : String) (node : FileNode) (rest : List (String × FileNode)) :
    entry? ((name, node) :: rest) other = if name = other then some node else entry? rest other := by
  by_cases h : name = other <;> simp [ entry?, h]

theorem mem_of_entry? {name : String} {node : FileNode} (h : entry? entries name = some node) :
    (name, node) ∈ entries := by
  obtain ⟨⟨other, found⟩, hfind, rfl⟩ := Option.map_eq_some_iff.mp h
  have hname : other = name := by simpa using List.find?_some hfind
  exact hname ▸ List.mem_of_find?_eq_some hfind

theorem entry?_setEntry (entries : List (String × FileNode)) (name other : String)
    (node : FileNode) :
    entry? (setEntry entries name node) other =
      if name = other then some node else entry? entries other := by
  induction entries with
  | nil => rw [setEntry, entry?_cons]
  | cons first rest ih =>
    obtain ⟨key, old⟩ := first
    rw [setEntry]
    split
    · next heq =>
      rw [heq, entry?_cons, entry?_cons]
      split <;> rfl
    · next hne =>
      split
      · rw [entry?_cons]
      · rw [entry?_cons, entry?_cons, ih]
        by_cases hkey : key = other
        · rw [if_pos hkey, if_pos hkey, if_neg (hkey ▸ Ne.symm hne)]
        · rw [if_neg hkey, if_neg hkey]

def under (node : FileNode) (names : List String) : Option FileNode :=
  match node, names with
  | node, [] => some node
  | .directory entries, names => find? entries names
  | _, _ => none

@[simp] theorem under_directory (entries : List (String × FileNode)) (names : List String) :
    (FileNode.directory entries).under names = find? entries names := by
  cases names <;> rfl

theorem find?_cons (entries : List (String × FileNode)) (name : String) (names : List String) :
    find? entries (name :: names) = ( entry? entries name).bind (·.under names) := by
  cases names with
  | nil =>
    rw [find?]
    cases entry? entries name with
    | none => rfl
    | some node => cases node <;> rfl
  | cons next names =>
    rw [find?.eq_3 entries name (next :: names) (List.cons_ne_nil _ _)]
    cases entry? entries name with
    | none => rfl
    | some node => cases node <;> rfl

theorem find?_append (entries : List (String × FileNode)) (above names : List String) :
    find? entries (above ++ names) = (find? entries above).bind (·.under names) := by
  induction above generalizing entries with
  | nil => simp [find?]
  | cons name above ih =>
    rw [List.cons_append, find?_cons, find?_cons]
    cases entry? entries name with
    | none => rfl
    | some node =>
      cases node with
      | directory inner => simp [ih]
      | file content | link target => cases above <;> cases names <;> rfl

end FileNode

namespace FileTree

variable {t : FileTree} {p : Path} {content : List UInt8}

theorem read_of_file (h : t.get p = .ok (.file content)) : t.read p = .ok content := by
  rw [read, h]
  rfl

theorem read_of_directory {entries : List (String × FileNode)}
    (h : t.get p = .ok (.directory entries)) : t.read p = .error .isDirectory := by
  rw [read, h]
  rfl

theorem isFile_of_read (h : t.read p = .ok content) : t.isFile p = true := by
  obtain ⟨node, hnode, h⟩ := Fallible.bind_eq_ok.mp h
  cases node with
  | file bytes => rw [isFile, hnode]
  | directory entries => cases h
  | link target => cases h

theorem locate_of_get {node : FileNode} (h : t.get p = .ok node) :
    ∃ place, t.locate true p = .ok place ∧ FileNode.find? t.root place.reverse = some node := by
  obtain ⟨place, hlocate, h⟩ := Fallible.bind_eq_ok.mp h
  split at h
  · next found hfound =>
    cases h
    exact ⟨place, hlocate, hfound⟩
  · cases h

section Located

variable {place : List String} (hlocate : t.locate true p = .ok place)

include hlocate

theorem get_of_find {node : FileNode} (hfind : FileNode.find? t.root place.reverse = some node) :
    t.get p = .ok node := by
  simp only [get, hlocate, bind, Except.bind, hfind]

theorem get_of_missing (hfind : FileNode.find? t.root place.reverse = none) :
    t.get p = .error .notFound := by
  simp only [get, hlocate, bind, Except.bind, hfind]

end Located

theorem get_of_entry (name : String) {node : FileNode} (hcwd : t.cwd = [])
    (hname : name ≠ "" ∧ name ≠ "." ∧ name ≠ "..")
    (hentry : FileNode.entry? t.root name = some node) (hlink : ∀ target, node ≠ .link target) :
    t.get { parts := [name] } = .ok node := by
  obtain ⟨hempty, hdot, hdots⟩ := hname
  have hlocate : t.locate true { parts := [name] } = .ok [name] := by
    cases node with
    | link target => exact absurd rfl (hlink target)
    | file _ | directory _ =>
      simp [locate, walkTo, FileNode.find?, hcwd, hentry, hempty, hdot, hdots]
  exact get_of_find hlocate (by simp [FileNode.find?, hentry])

theorem read_of_entry (name : String) {content : List UInt8} (hcwd : t.cwd = [])
    (hname : name ≠ "" ∧ name ≠ "." ∧ name ≠ "..")
    (hentry : FileNode.entry? t.root name = some (.file content)) :
    t.read { parts := [name] } = .ok content := by
  exact read_of_file (get_of_entry name hcwd hname hentry fun _ h => by cases h)

end FileTree

end LineCensus
