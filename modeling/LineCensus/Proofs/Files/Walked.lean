import LineCensus.Proofs.Files.Lookup
import LineCensus.Proofs.Files.Names

/-!
# The files below a directory

A walk enters a directory, or passes it over with all that is below it.  The main statement says
which files that leaves: those that are let through themselves and lie in directories that are
entered, all of them, each once, and in the order of the walk.
-/

namespace LineCensus

/-! ## Trees in order -/

namespace FileNode

/-- Names ascend, in the directory and in every directory below it. -/
def OrderedEntries : List (String × FileNode) → Prop
  | [] => True
  | (name, .directory inner) :: rest =>
    (∀ entry ∈ rest, name < entry.1) ∧ OrderedEntries inner ∧ OrderedEntries rest
  | (name, .file _) :: rest => (∀ entry ∈ rest, name < entry.1) ∧ OrderedEntries rest
  | (name, .link _) :: rest => (∀ entry ∈ rest, name < entry.1) ∧ OrderedEntries rest

def Ordered : FileNode → Prop
  | .directory entries => OrderedEntries entries
  | _ => True

variable {entries : List (String × FileNode)} {name : String} {node : FileNode}

theorem orderedEntries_nil : OrderedEntries [] := by
  rw [OrderedEntries]
  trivial

theorem orderedEntries_cons {rest : List (String × FileNode)} :
    OrderedEntries ((name, node) :: rest) ↔
      (∀ entry ∈ rest, name < entry.1) ∧ node.Ordered ∧ OrderedEntries rest := by
  cases node <;> simp [OrderedEntries, Ordered]

theorem ordered_of_mem (h : OrderedEntries entries) (hmem : (name, node) ∈ entries) :
    node.Ordered := by
  induction entries with
  | nil => cases hmem
  | cons first rest ih =>
    obtain ⟨-, hfirst, hrest⟩ := orderedEntries_cons.mp h
    rcases List.mem_cons.mp hmem with rfl | hmem
    · exact hfirst
    · exact ih hrest hmem

/-- In an ordered directory every entry is found under its name. -/
theorem entry?_eq_some_iff (h : OrderedEntries entries) :
    entry? entries name = some node ↔ (name, node) ∈ entries := by
  induction entries with
  | nil => simp [ entry?]
  | cons first rest ih =>
    obtain ⟨other, old⟩ := first
    obtain ⟨hlt, -, hrest⟩ := orderedEntries_cons.mp h
    rw [entry?_cons, List.mem_cons, Prod.mk.injEq]
    split
    · next heq =>
      subst heq
      have hnot : (other, node) ∉ rest := fun hmem => String.lt_irrefl _ (hlt _ hmem)
      simp [hnot, eq_comm]
    · next hne =>
      rw [ih hrest]
      simp [Ne.symm hne]

theorem mem_setEntry {entry : String × FileNode} (h : entry ∈ setEntry entries name node) :
    entry = (name, node) ∨ entry ∈ entries := by
  induction entries with
  | nil => exact .inl (List.mem_singleton.mp h)
  | cons first rest ih =>
    obtain ⟨other, old⟩ := first
    rw [setEntry] at h
    split at h
    · exact (List.mem_cons.mp h).imp_right (List.mem_cons_of_mem _)
    · split at h
      · exact List.mem_cons.mp h
      · rcases List.mem_cons.mp h with rfl | h
        · exact .inr List.mem_cons_self
        · exact (ih h).imp_right (List.mem_cons_of_mem _)

theorem ordered_setEntry (h : OrderedEntries entries) (hnode : node.Ordered) :
    OrderedEntries (setEntry entries name node) := by
  induction entries with
  | nil => exact orderedEntries_cons.mpr ⟨by simp, hnode, orderedEntries_nil⟩
  | cons first rest ih =>
    obtain ⟨other, old⟩ := first
    obtain ⟨hlt, hold, hrest⟩ := orderedEntries_cons.mp h
    rw [setEntry]
    split
    · next heq => exact orderedEntries_cons.mpr ⟨heq ▸ hlt, hnode, hrest⟩
    · next hne =>
      split
      · next hbefore =>
        refine orderedEntries_cons.mpr ⟨?_, hnode, h⟩
        intro entry hentry
        rcases List.mem_cons.mp hentry with rfl | hentry
        · exact hbefore
        · exact String.lt_trans hbefore (hlt entry hentry)
      · next hafter =>
        refine orderedEntries_cons.mpr ⟨?_, hold, ih hrest⟩
        intro entry hentry
        rcases mem_setEntry hentry with rfl | hentry
        · by_contra hnot
          exact hne (String.le_antisymm (String.not_lt.mp hafter) (String.not_lt.mp hnot))
        · exact hlt entry hentry

theorem ordered_insert (h : OrderedEntries entries) (names : List String) (hnode : node.Ordered) :
    OrderedEntries (insert entries names node) := by
  induction entries, names using insert.induct with
  | case1 entries => exact h
  | case2 entries name => exact ordered_setEntry h hnode
  | case3 entries name rest hrest inner hentry ih =>
    have hinner : OrderedEntries inner := ordered_of_mem h ((entry?_eq_some_iff h).mp hentry)
    rw [insert.eq_3 entries node name rest hrest, hentry]
    exact ordered_setEntry h (ih hinner)
  | case4 entries name rest hrest hentry ih =>
    rw [insert.eq_3 entries node name rest hrest]
    split
    · next inner hfound => exact absurd hfound (hentry inner)
    · exact ordered_setEntry h (ih orderedEntries_nil)

theorem ordered_find? (h : OrderedEntries entries) {names : List String}
    (hfind : find? entries names = some node) : node.Ordered := by
  induction entries, names using find?.induct with
  | case1 entries =>
    cases hfind
    exact h
  | case2 entries name => exact ordered_of_mem h ((entry?_eq_some_iff h).mp hfind)
  | case3 entries name rest hrest inner hentry ih =>
    rw [find?.eq_3 entries name rest hrest, hentry] at hfind
    exact ih (ordered_of_mem h ((entry?_eq_some_iff h).mp hentry)) hfind
  | case4 entries name rest hrest hentry =>
    rw [find?.eq_3 entries name rest hrest] at hfind
    split at hfind
    · next inner hinner => exact absurd hinner (hentry inner)
    · cases hfind

end FileNode

def FileTree.Ordered (t : FileTree) : Prop :=
  FileNode.OrderedEntries t.root

theorem FileTree.ordered_insert {t : FileTree} (h : t.Ordered) (p : Path) {node : FileNode}
    (hnode : node.Ordered) : (t.insert p node).Ordered :=
  FileNode.ordered_insert h _ hnode

theorem FileTree.ordered_get {t : FileTree} (h : t.Ordered) {p : Path} {node : FileNode}
    (hget : t.get p = .ok node) : node.Ordered := by
  obtain ⟨place, -, hfind⟩ := locate_of_get hget
  exact FileNode.ordered_find? h hfind

namespace Walk

/-! ## The order of a walk -/

/-- The order of files below a directory: where their paths part, a file of the directory comes
before one in a subdirectory, and otherwise the names decide. -/
inductive Before : List String → List String → Prop where
  | shallow (a b c : String) (deeper : List String) : Before [a] (b :: c :: deeper)
  | files {a b : String} (h : a < b) : Before [a] [b]
  | directories {a b : String} (h : a < b) (c d : String) (as bs : List String) :
    Before (a :: c :: as) (b :: d :: bs)
  | inside (a : String) {as bs : List String} (h : Before as bs) : Before (a :: as) (a :: bs)

theorem Before.irrefl {names : List String} (h : Before names names) : False := by
  induction names with
  | nil => cases h
  | cons name rest ih =>
    cases h with
    | files h | directories h => exact String.lt_irrefl _ h
    | inside _ h => exact ih h

theorem Before.append {names others : List String} (h : Before names others)
    (above : List String) : Before (above ++ names) (above ++ others) := by
  induction above with
  | nil => exact h
  | cons name rest ih => exact .inside name ih

theorem before_of_parting {a b : String} (h : a < b) {as bs : List String} (has : as ≠ [])
    (hbs : bs ≠ []) : Before (a :: as) (b :: bs) := by
  obtain ⟨c, as, rfl⟩ := List.exists_cons_of_ne_nil has
  obtain ⟨d, bs, rfl⟩ := List.exists_cons_of_ne_nil hbs
  exact .directories h c d as bs

/-- All the files below `above` that are wanted, in the order of a walk. -/
structure Enumerates (above : List String) (wanted : List String → Prop)
    (found : List (List String)) : Prop where
  mem : ∀ names, names ∈ found ↔ ∃ inner, wanted inner ∧ names = above ++ inner
  ascending : found.Pairwise Before

namespace Enumerates

variable {above : List String} {wanted others : List String → Prop}
  {found more : List (List String)}

theorem none (h : ∀ inner, ¬wanted inner) : Enumerates above wanted [] :=
  ⟨by simp [h], .nil⟩

theorem congr (h : Enumerates above wanted found) (hiff : ∀ inner, others inner ↔ wanted inner) :
    Enumerates above others found :=
  ⟨by simpa only [hiff] using h.mem, h.ascending⟩

theorem single {names : List String} (h : ∀ inner, wanted inner ↔ inner = names) :
    Enumerates above wanted [above ++ names] :=
  ⟨by simp [h], List.pairwise_singleton _ _⟩

theorem append (h : Enumerates above wanted found) (h' : Enumerates above others more)
    (hbefore : ∀ inner inner', wanted inner → others inner' → Before inner inner') :
    Enumerates above (fun inner => wanted inner ∨ others inner) (found ++ more) := by
  constructor
  · intro names
    rw [List.mem_append, h.mem, h'.mem]
    simp only [or_and_right, exists_or]
  · rw [List.pairwise_append]
    refine ⟨h.ascending, h'.ascending, ?_⟩
    intro names hnames names' hnames'
    obtain ⟨inner, hinner, rfl⟩ := (h.mem names).mp hnames
    obtain ⟨inner', hinner', rfl⟩ := (h'.mem names').mp hnames'
    exact (hbefore inner inner' hinner hinner').append above

theorem outside {name : String} (h : Enumerates (above ++ [name]) wanted found) :
    Enumerates above (fun inner => ∃ deeper, wanted deeper ∧ inner = name :: deeper) found := by
  refine ⟨fun names => ?_, h.ascending⟩
  rw [h.mem]
  constructor
  · rintro ⟨deeper, hdeeper, rfl⟩
    exact ⟨name :: deeper, ⟨deeper, hdeeper, rfl⟩, by simp⟩
  · rintro ⟨_, ⟨deeper, hdeeper, rfl⟩, rfl⟩
    exact ⟨deeper, hdeeper, by simp⟩

theorem nodup (h : Enumerates above wanted found) : found.Nodup :=
  h.ascending.imp fun hbefore heq => (heq ▸ hbefore).irrefl

end Enumerates

/-! ## The files that are let through -/

def Shown (includeHidden : Bool) (name : String) : Prop :=
  includeHidden = true ∨ isHidden name = false

instance (includeHidden : Bool) : DecidablePred (Shown includeHidden) := fun name =>
  inferInstanceAs (Decidable (includeHidden = true ∨ isHidden name = false))

/-- What lets a file through that lies below a directory with these entries: it is there, and no
link; it is neither hidden nor ignored; and of the directories around it none is a link, hidden,
ignored, or one of version control. -/
structure LetsThrough (includeHidden : Bool) (ignored : List String → Bool)
    (entries : List (String × FileNode)) (names : List String) : Prop where
  file : ∃ content, FileNode.find? entries names = some (.file content)
  own : ∀ outer name, names = outer ++ [name] →
    Shown includeHidden name ∧ ignored names = false
  around : ∀ outer name inner, names = outer ++ name :: inner → inner ≠ [] →
    (∃ entries', FileNode.find? entries (outer ++ [name]) = some (.directory entries')) ∧
      name ∉ versionControl ∧ Shown includeHidden name ∧ ignored (outer ++ [name]) = false

variable {includeHidden : Bool} {ignored : List String → Bool}
  {entries : List (String × FileNode)}

theorem LetsThrough.ne_nil {names : List String}
    (h : LetsThrough includeHidden ignored entries names) : names ≠ [] := by
  rintro rfl
  obtain ⟨content, hfile⟩ := h.file
  cases hfile

theorem find?_cons {name : String} {inner : List (String × FileNode)}
    (h : FileNode.entry? entries name = some (.directory inner)) (names : List String) :
    FileNode.find? entries (name :: names) = FileNode.find? inner names := by
  rw [FileNode.find?_cons, h, Option.bind_some, FileNode.under_directory]

theorem letsThrough_singleton {name : String} :
    LetsThrough includeHidden ignored entries [name] ↔
      (∃ content, FileNode.entry? entries name = some (.file content)) ∧
        Shown includeHidden name ∧ ignored [name] = false := by
  constructor
  · intro h
    exact ⟨h.file, h.own [] name rfl⟩
  · rintro ⟨hfile, hown⟩
    refine ⟨hfile, ?_, ?_⟩
    · intro outer last heq
      cases outer with
      | nil =>
        cases heq
        exact hown
      | cons first outer => simp at heq
    · intro outer last inner heq hne
      cases outer with
      | nil =>
        cases heq
        exact absurd rfl hne
      | cons first outer => simp at heq

/-- A file below a subdirectory is let through if the subdirectory is entered and lets it through. -/
theorem letsThrough_cons {name : String} {deeper : List String} (hne : deeper ≠ []) :
    LetsThrough includeHidden ignored entries (name :: deeper) ↔
      ∃ inner, FileNode.entry? entries name = some (.directory inner) ∧
        (name ∉ versionControl ∧ Shown includeHidden name ∧ ignored [name] = false) ∧
        LetsThrough includeHidden (fun names => ignored (name :: names)) inner deeper := by
  constructor
  · intro h
    obtain ⟨⟨inner, hinner⟩, hentered⟩ := h.around [] name deeper rfl hne
    have hentry : FileNode.entry? entries name = some (.directory inner) := hinner
    refine ⟨inner, hentry, hentered, ?_, ?_, ?_⟩
    · obtain ⟨content, hfile⟩ := h.file
      exact ⟨content, by rwa [← find?_cons hentry]⟩
    · rintro outer last rfl
      exact h.own (name :: outer) last rfl
    · rintro outer last below rfl hbelow
      obtain ⟨⟨entries', hfind⟩, hlast⟩ := h.around (name :: outer) last below rfl hbelow
      rw [List.cons_append, find?_cons hentry] at hfind
      exact ⟨⟨entries', hfind⟩, hlast⟩
  · rintro ⟨inner, hentry, hentered, h⟩
    refine ⟨?_, ?_, ?_⟩
    · obtain ⟨content, hfile⟩ := h.file
      exact ⟨content, by rwa [find?_cons hentry]⟩
    · intro outer last heq
      cases outer with
      | nil =>
        cases heq
        exact absurd rfl hne
      | cons first outer =>
        cases heq
        exact h.own outer last rfl
    · intro outer last below heq hbelow
      cases outer with
      | nil =>
        cases heq
        exact ⟨⟨inner, hentry⟩, hentered⟩
      | cons first outer =>
        cases heq
        obtain ⟨⟨entries', hfind⟩, hlast⟩ := h.around outer last below rfl hbelow
        rw [List.cons_append, find?_cons hentry]
        exact ⟨⟨entries', hfind⟩, hlast⟩

def LetsFile (includeHidden : Bool) (ignored : List String → Bool)
    (entries : List (String × FileNode)) (names : List String) : Prop :=
  ∃ name content, (name, FileNode.file content) ∈ entries ∧
    (Shown includeHidden name ∧ ignored [name] = false) ∧ names = [name]

def LetsBelow (includeHidden : Bool) (ignored : List String → Bool)
    (entries : List (String × FileNode)) (names : List String) : Prop :=
  ∃ name inner, (name, FileNode.directory inner) ∈ entries ∧
    (name ∉ versionControl ∧ Shown includeHidden name ∧ ignored [name] = false) ∧
    ∃ deeper, LetsThrough includeHidden (fun names => ignored (name :: names)) inner deeper ∧
      names = name :: deeper

theorem letsThrough_iff (h : FileNode.OrderedEntries entries) {names : List String} :
    LetsThrough includeHidden ignored entries names ↔
      LetsFile includeHidden ignored entries names ∨
        LetsBelow includeHidden ignored entries names := by
  constructor
  · intro hlets
    obtain ⟨name, rest, rfl⟩ := List.exists_cons_of_ne_nil hlets.ne_nil
    by_cases hrest : rest = []
    · subst hrest
      obtain ⟨⟨content, hfile⟩, hown⟩ := letsThrough_singleton.mp hlets
      exact .inl ⟨name, content, (FileNode.entry?_eq_some_iff h).mp hfile, hown, rfl⟩
    · obtain ⟨inner, hentry, hentered, hinner⟩ := (letsThrough_cons hrest).mp hlets
      exact .inr ⟨name, inner, (FileNode.entry?_eq_some_iff h).mp hentry, hentered, rest, hinner,
        rfl⟩
  · rintro (⟨name, content, hmem, hown, rfl⟩ | ⟨name, inner, hmem, hentered, deeper, hinner, rfl⟩)
    · exact letsThrough_singleton.mpr
        ⟨⟨content, (FileNode.entry?_eq_some_iff h).mpr hmem⟩, hown⟩
    · exact (letsThrough_cons hinner.ne_nil).mpr
        ⟨inner, (FileNode.entry?_eq_some_iff h).mpr hmem, hentered, hinner⟩

/-! ## What a walk yields -/

def Rules.asking (includeHidden : Bool) (ignored : List String → Bool) : Rules :=
  ⟨includeHidden, fun names => .ok (ignored names)⟩

theorem visible_iff {name : String} :
    (Rules.asking includeHidden ignored).visible name = true ↔ Shown includeHidden name := by
  simp [Rules.asking, Rules.visible, Shown]

theorem keepsFile_asking (above : List String) (name : String) :
    (Rules.asking includeHidden ignored).keepsFile above name =
      .ok (decide (Shown includeHidden name ∧ ignored (above ++ [name]) = false)) := by
  rw [Rules.keepsFile]
  split
  · next hvisible =>
    rw [visible_iff] at hvisible
    simp [hvisible, Rules.asking, Except.map]
  · next hvisible =>
    rw [visible_iff] at hvisible
    simp [hvisible]

theorem enters_asking (above : List String) (name : String) :
    (Rules.asking includeHidden ignored).enters above name =
      .ok (decide (name ∉ versionControl ∧ Shown includeHidden name ∧
        ignored (above ++ [name]) = false)) := by
  rw [Rules.enters]
  split
  · next hvisible =>
    rw [Bool.and_eq_true, visible_iff] at hvisible
    obtain ⟨hcontrol, hshown⟩ := hvisible
    have hcontrol : name ∉ versionControl := by simpa using hcontrol
    simp [hcontrol, hshown, Rules.asking, Except.map]
  · next hvisible =>
    rw [Bool.and_eq_true, visible_iff] at hvisible
    have hnot : ¬(name ∉ versionControl ∧ Shown includeHidden name) := by simpa using hvisible
    simp only [← and_assoc, hnot, false_and, decide_false]

theorem not_letsFile_nil {names : List String} : ¬LetsFile includeHidden ignored [] names := by
  rintro ⟨_, _, hmem, -⟩
  cases hmem

theorem letsFile_cons {name : String} {node : FileNode} {rest : List (String × FileNode)}
    {names : List String} :
    LetsFile includeHidden ignored ((name, node) :: rest) names ↔
      ((∃ content, node = .file content) ∧ (Shown includeHidden name ∧ ignored [name] = false) ∧
        names = [name]) ∨ LetsFile includeHidden ignored rest names := by
  constructor
  · rintro ⟨other, content, hmem, hlets⟩
    rcases List.mem_cons.mp hmem with heq | hmem
    · cases heq
      exact .inl ⟨⟨content, rfl⟩, hlets⟩
    · exact .inr ⟨other, content, hmem, hlets⟩
  · rintro (⟨⟨content, rfl⟩, hlets⟩ | ⟨other, content, hmem, hlets⟩)
    · exact ⟨name, content, List.mem_cons_self, hlets⟩
    · exact ⟨other, content, List.mem_cons_of_mem _ hmem, hlets⟩

theorem not_letsBelow_nil {names : List String} : ¬LetsBelow includeHidden ignored [] names := by
  rintro ⟨_, _, hmem, -⟩
  cases hmem

theorem letsBelow_cons {name : String} {node : FileNode} {rest : List (String × FileNode)}
    {names : List String} :
    LetsBelow includeHidden ignored ((name, node) :: rest) names ↔
      (∃ inner, node = .directory inner ∧
        (name ∉ versionControl ∧ Shown includeHidden name ∧ ignored [name] = false) ∧
        ∃ deeper, LetsThrough includeHidden (fun names => ignored (name :: names)) inner deeper ∧
          names = name :: deeper) ∨ LetsBelow includeHidden ignored rest names := by
  constructor
  · rintro ⟨other, inner, hmem, hlets⟩
    rcases List.mem_cons.mp hmem with heq | hmem
    · cases heq
      exact .inl ⟨inner, rfl, hlets⟩
    · exact .inr ⟨other, inner, hmem, hlets⟩
  · rintro (⟨inner, rfl, hlets⟩ | ⟨other, inner, hmem, hlets⟩)
    · exact ⟨name, inner, List.mem_cons_self, hlets⟩
    · exact ⟨other, inner, List.mem_cons_of_mem _ hmem, hlets⟩

theorem enumerates_filesOf (includeHidden : Bool) (ignored : List String → Bool)
    (above : List String) (h : FileNode.OrderedEntries entries) :
    ∃ found, filesOf (.asking includeHidden ignored) above entries = .ok found ∧
      Enumerates above (LetsFile includeHidden (fun names => ignored (above ++ names)) entries)
        found := by
  induction entries with
  | nil => exact ⟨[], rfl, .none fun _ => not_letsFile_nil⟩
  | cons first rest ih =>
    obtain ⟨name, node⟩ := first
    obtain ⟨hlt, -, hrest⟩ := FileNode.orderedEntries_cons.mp h
    obtain ⟨others, hothers, henum⟩ := ih hrest
    cases node with
    | directory inner =>
      refine ⟨others, by rw [filesOf, hothers], henum.congr fun names => ?_⟩
      rw [letsFile_cons]
      simp
    | link target =>
      refine ⟨others, by rw [filesOf, keepsFile_asking, hothers]; rfl, henum.congr fun names => ?_⟩
      rw [letsFile_cons]
      simp
    | file content =>
      by_cases hkeep : Shown includeHidden name ∧ ignored (above ++ [name]) = false
      · have hfirst : Enumerates above (· = [name]) [above ++ [name]] := .single fun _ => Iff.rfl
        refine ⟨(above ++ [name]) :: others, ?_, ?_⟩
        · rw [filesOf, keepsFile_asking, hothers, decide_eq_true hkeep]
          rfl
        · refine (hfirst.append henum ?_).congr fun names => ?_
          · rintro _ _ rfl ⟨other, _, hmem, -, rfl⟩
            exact .files (hlt _ hmem)
          · rw [letsFile_cons]
            simp [hkeep]
      · refine ⟨others, ?_, henum.congr fun names => ?_⟩
        · rw [filesOf, keepsFile_asking, hothers, decide_eq_false hkeep]
          rfl
        · rw [letsFile_cons]
          simp [hkeep]

theorem Enumerates.directory {above : List String} {files deeper : List (List String)}
    (h : FileNode.OrderedEntries entries)
    (hfiles : Enumerates above (LetsFile includeHidden ignored entries) files)
    (hdeeper : Enumerates above (LetsBelow includeHidden ignored entries) deeper) :
    Enumerates above (LetsThrough includeHidden ignored entries) (files ++ deeper) := by
  refine (hfiles.append hdeeper ?_).congr fun names => letsThrough_iff h
  rintro _ _ ⟨name, _, -, -, rfl⟩ ⟨other, inner, -, -, names, hinner, rfl⟩
  obtain ⟨first, rest, rfl⟩ := List.exists_cons_of_ne_nil hinner.ne_nil
  exact .shallow name other first rest

theorem enumerates_below (includeHidden : Bool) (ignored : List String → Bool)
    (above : List String) (h : FileNode.OrderedEntries entries) :
    ∃ found, below (.asking includeHidden ignored) above entries = .ok found ∧
      Enumerates above (LetsBelow includeHidden (fun names => ignored (above ++ names)) entries)
        found := by
  induction above, entries using below.induct with
  | case1 above => exact ⟨[], by rw [below], .none fun _ => not_letsBelow_nil⟩
  | case2 above name inner rest ihrest ihinner =>
    obtain ⟨hlt, hinner, hrest⟩ := FileNode.orderedEntries_cons.mp h
    obtain ⟨others, hothers, henum⟩ := ihrest hrest
    by_cases henter : name ∉ versionControl ∧ Shown includeHidden name ∧
        ignored (above ++ [name]) = false
    · obtain ⟨files, hfiles, hfilesenum⟩ :=
        enumerates_filesOf includeHidden ignored (above ++ [name]) hinner
      obtain ⟨deeper, hdeeper, hdeeperenum⟩ := ihinner hinner
      have hinside := (Enumerates.directory hinner hfilesenum hdeeperenum).outside
      refine ⟨(files ++ deeper) ++ others, ?_, (hinside.append henum ?_).congr fun names => ?_⟩
      · rw [below, enters_asking, hothers, decide_eq_true henter, hfiles, hdeeper]
        rfl
      -- the subdirectory has a smaller name than what is left
      · rintro _ _ ⟨names, hnames, rfl⟩ ⟨other, _, hmem, -, names', hnames', rfl⟩
        exact before_of_parting (hlt _ hmem) hnames.ne_nil hnames'.ne_nil
      · rw [letsBelow_cons]
        simp [henter]
    · refine ⟨others, ?_, henum.congr fun names => ?_⟩
      · rw [below, enters_asking, hothers, decide_eq_false henter]
        rfl
      · rw [letsBelow_cons]
        simp [henter]
  | case3 above entry rest hentry ih =>
    obtain ⟨name, node⟩ := entry
    obtain ⟨-, -, hrest⟩ := FileNode.orderedEntries_cons.mp h
    obtain ⟨others, hothers, henum⟩ := ih hrest
    have hnot : ∀ inner, node ≠ .directory inner := fun inner heq =>
      hentry name inner (by rw [heq])
    refine ⟨others, by rw [below.eq_3 _ above (name, node) rest hentry, hothers],
      henum.congr fun names => ?_⟩
    rw [letsBelow_cons]
    simp [hnot]

theorem enumerates_walk (includeHidden : Bool) (ignored : List String → Bool)
    (h : FileNode.OrderedEntries entries) :
    ∃ found, walk (.asking includeHidden ignored) entries = .ok found ∧
      Enumerates [] (LetsThrough includeHidden ignored entries) found := by
  obtain ⟨files, hfiles, hfilesenum⟩ := enumerates_filesOf includeHidden ignored [] h
  obtain ⟨deeper, hdeeper, hdeeperenum⟩ := enumerates_below includeHidden ignored [] h
  refine ⟨files ++ deeper, ?_, .directory h hfilesenum hdeeperenum⟩
  rw [walk, hfiles, hdeeper]
  rfl

end Walk

/-! ## The paths that an ignore file ignores -/

namespace Ignore

variable {rules : List Rule} {names : List String}

theorem exists_answers_eq_ok (h : ∀ r ∈ rules, ∃ matched, r.matches? names = .ok matched) :
    (∃ ignored, anyMatches names rules = .ok ignored) ∧
      ∃ ignored, firstIgnores names rules = .ok ignored := by
  induction rules with
  | nil => exact ⟨⟨false, rfl⟩, ⟨false, rfl⟩⟩
  | cons r rest ih =>
    obtain ⟨⟨matched, hmatched⟩, hrest⟩ := List.forall_mem_cons.mp h
    rw [anyMatches, firstIgnores, hmatched]
    cases matched with
    | false => exact ih hrest
    | true => exact ⟨⟨true, rfl⟩, ⟨_, rfl⟩⟩

theorem exists_ignores_eq_ok (h : ∀ r ∈ rules, ∃ p, r.pattern = .ok p) (names : List String) :
    ∃ ignored, ignores rules names = .ok ignored := by
  have hmatches : ∀ r ∈ rules, ∃ matched, r.matches? names = .ok matched := by
    intro r hr
    obtain ⟨p, hp⟩ := h r hr
    exact ⟨_, by rw [Rule.matches?, hp]⟩
  rw [ignores]
  split
  · exact (exists_answers_eq_ok fun r hr => hmatches r (List.mem_reverse.mp hr)).2
  · exact (exists_answers_eq_ok hmatches).1

end Ignore

/-! ## The files that a directory stands for -/

namespace FileTree

def placeBelow (t : FileTree) (root : Path) (names : List String) : Path :=
  { root.absolute t.cwd with parts := (root.absolute t.cwd).parts ++ names }

/-- The walk below the directory tells ignored paths by this predicate. -/
def IgnoresBy (t : FileTree) (o : WalkOptions) (root : Path) (ignored : Path → Bool) : Prop :=
  ∃ rules, t.ignoreRules o root = .ok rules ∧
    ∀ names, Ignore.ignores rules names = .ok (ignored (t.placeBelow root names))

theorem ignoresBy_none {t : FileTree} {o : WalkOptions} (h : o.respectGitignore = false)
    (root : Path) : t.IgnoresBy o root fun _ => false := by
  refine ⟨[], ?_, fun names => rfl⟩
  rw [ignoreRules, h]
  rfl

/-- An ignore file whose patterns can all be read tells ignored paths by a predicate. -/
theorem exists_ignoresBy {t : FileTree} {o : WalkOptions} {root : Path}
    {rules : List Ignore.Rule} (hrules : t.ignoreRules o root = .ok rules)
    (h : ∀ r ∈ rules, ∃ p, r.pattern = .ok p) : ∃ ignored, t.IgnoresBy o root ignored := by
  choose ignored hignored using Ignore.exists_ignores_eq_ok h
  refine ⟨fun p => ignored (p.parts.drop (root.absolute t.cwd).parts.length), rules, hrules, ?_⟩
  intro names
  show Ignore.ignores rules names = .ok (ignored (List.drop _ (_ ++ names)))
  rw [List.drop_left, hignored]

variable {t : FileTree} {root : Path} {entries : List (String × FileNode)}

theorem filesAt_of_walk {o : WalkOptions} {ignored : Path → Bool} {found : List (List String)}
    (hroot : t.get root = .ok (.directory entries)) (hignores : t.IgnoresBy o root ignored)
    (hfound : Walk.walk (.asking o.includeHidden fun names => ignored (t.placeBelow root names))
      entries = .ok found) :
    t.filesAt o root =
      .ok (found.map fun names => { root with parts := root.parts ++ names }) := by
  obtain ⟨rules, hrules, hasked⟩ := hignores
  have hwalk : Walk.walk ⟨o.includeHidden, Ignore.ignores rules⟩ entries = .ok found := by
    rw [funext hasked]
    exact hfound
  rw [filesAt, hroot]
  show Except.mapError _ (t.ignoreRules o root >>= fun rules =>
    Walk.walk ⟨o.includeHidden, Ignore.ignores rules⟩ entries >>= _) = _
  rw [hrules]
  show Except.mapError _ (Walk.walk ⟨o.includeHidden, Ignore.ignores rules⟩ entries >>= _) = _
  rw [hwalk]
  rfl

/-- Whatever paths below a directory are ignored, a walk yields the files that are let through, each
once, and a directory's own files before those of its subdirectories, both in the order of their
names.  A directory stands for the files of the walk that asks its ignore file, or no file at all
if that is not respected. -/
theorem walk_of_directory (ht : t.Ordered) (hroot : t.get root = .ok (.directory entries))
    (includeHidden : Bool) (ignored : Path → Bool) :
    let below names := ignored (t.placeBelow root names)
    ∃ found, Walk.walk (.asking includeHidden below) entries = .ok found ∧
      (∀ names, names ∈ found ↔ Walk.LetsThrough includeHidden below entries names) ∧
      found.Nodup ∧ found.Pairwise Walk.Before ∧
      ∀ o : WalkOptions, o.includeHidden = includeHidden →
        (t.IgnoresBy o root ignored ∨ o.respectGitignore = false ∧ ignored = fun _ => false) →
        t.filesAt o root =
          .ok (found.map fun names => { root with parts := root.parts ++ names }) := by
  intro below
  have hordered : FileNode.OrderedEntries entries := ordered_get ht hroot
  obtain ⟨found, hfound, henum⟩ := Walk.enumerates_walk includeHidden below hordered
  refine ⟨found, hfound, ?_, henum.nodup, henum.ascending, ?_⟩
  · intro names
    rw [henum.mem]
    simp
  · rintro o rfl hignores
    refine filesAt_of_walk hroot ?_ hfound
    rcases hignores with hignores | ⟨hrespect, rfl⟩
    · exact hignores
    · exact ignoresBy_none hrespect root

/-- A directory with files of version control, hidden and ignored ones, a link and subdirectories. -/
theorem walk_of_directory_project :
    let entries : List (String × FileNode) :=
      [(".git", .directory [("config", .file [])]), (".hidden", .file []),
        ("build", .directory [("out", .file [])]), ("latest", .link "src"), ("main", .file []),
        ("src", .directory [("lib", .directory [("a", .file [])]), ("z", .file [])])]
    let t : FileTree := { root := entries }
    let ignored (p : Path) := p.parts == ["build"]
    let below names := ignored (t.placeBelow {} names)
    let found := [["main"], ["src", "z"], ["src", "lib", "a"]]
    t.Ordered ∧ t.get {} = .ok (.directory entries) ∧
      Walk.walk (.asking false below) entries = .ok found ∧
      found.Pairwise Walk.Before ∧
      Walk.LetsThrough false below entries ["src", "lib", "a"] ∧
      ¬Walk.LetsThrough false below entries [".git", "config"] ∧
      ¬Walk.LetsThrough false below entries ["build", "out"] ∧
      ¬Walk.LetsThrough false below entries ["latest", "z"] ∧
      t.filesAt { respectGitignore := false } {} =
        .ok [{ parts := ["main"] }, { parts := ["build", "out"] }, { parts := ["src", "z"] },
          { parts := ["src", "lib", "a"] }] := by
  intro entries t ignored below found
  have ht : t.Ordered := by
    simp only [Ordered, t, entries, FileNode.OrderedEntries, List.forall_mem_cons]
    decide
  have hroot : t.get {} = .ok (.directory entries) := by
    cbv
  have hwalk : Walk.walk (.asking false below) entries = .ok found := by
    cbv
  have hall : Walk.walk (.asking false fun _ => false) entries =
      .ok [["main"], ["build", "out"], ["src", "z"], ["src", "lib", "a"]] := by
    cbv
  obtain ⟨_, hfound, hmem, -, hascending, -⟩ := walk_of_directory ht hroot false ignored
  cases hwalk.symm.trans hfound
  obtain ⟨_, hfound, -, -, -, hstands⟩ := walk_of_directory ht hroot false fun _ => false
  cases hall.symm.trans hfound
  refine ⟨ht, hroot, hwalk, hascending, ?_, ?_, ?_, ?_, ?_⟩
  · exact (hmem _).mp (by decide)
  · exact fun h => absurd ((hmem _).mpr h) (by decide)
  · exact fun h => absurd ((hmem _).mpr h) (by decide)
  · exact fun h => absurd ((hmem _).mpr h) (by decide)
  · exact hstands { respectGitignore := false } rfl (.inr ⟨rfl, rfl⟩)

end FileTree

end LineCensus
