import LineCensus.Proofs.Files.Lookup

/-!
# Trees that are written to

A file is written, or a directory made, at one place of a tree.  Everything else stays as it is,
and paths lead to where they led.
-/

namespace LineCensus

/-! ## One place is set -/

namespace FileNode

variable {entries inner : List (String × FileNode)} {name : String} {node : FileNode}

def alone : FileNode → FileNode
  | .directory _ => .directory []
  | node => node

theorem under_of_alone (h : node.alone = node) {names : List String} (hne : names ≠ []) :
    node.under names = none := by
  obtain ⟨name, names, rfl⟩ := List.exists_cons_of_ne_nil hne
  cases node with
  | file content | link target => rfl
  | directory entries =>
    cases h
    rw [under_directory, find?_cons]
    rfl

theorem exists_directory_of_under {names : List String}
    (h : node.under names = some (.directory inner)) : ∃ entries, node = .directory entries := by
  cases node with
  | directory entries => exact ⟨entries, rfl⟩
  | file content | link target => cases names <;> cases h

theorem exists_entry_of_find? {names : List String}
    (h : find? entries (name :: names) = some (.directory inner)) :
    ∃ outer, entry? entries name = some (.directory outer) ∧
      find? outer names = some (.directory inner) := by
  rw [find?_cons, Option.bind_eq_some_iff] at h
  obtain ⟨node, hentry, hunder⟩ := h
  obtain ⟨outer, rfl⟩ := exists_directory_of_under hunder
  exact ⟨outer, hentry, by rwa [under_directory] at hunder⟩

theorem insert_cons (hentry : entry? entries name = some (.directory inner)) {names : List String}
    (hne : names ≠ []) (node : FileNode) :
    insert entries (name :: names) node =
      setEntry entries name (.directory (insert inner names node)) := by
  rw [insert.eq_3 entries node name names hne, hentry]

theorem find?_insert_self {above : List String} (h : find? entries above = some (.directory inner))
    (name : String) (node : FileNode) :
    find? (insert entries (above ++ [name]) node) (above ++ [name]) = some node := by
  induction above generalizing entries with
  | nil =>
    rw [List.nil_append, find?_cons, insert, entry?_setEntry, if_pos rfl]
    cases node <;> rfl
  | cons first above ih =>
    obtain ⟨outer, hentry, houter⟩ := exists_entry_of_find? h
    rw [List.cons_append, insert_cons hentry (by simp), find?_cons, entry?_setEntry, if_pos rfl,
      Option.bind_some, under_directory]
    exact ih houter

/-- Setting a node that has nothing below it, where there was no other, leaves the rest alone. -/
theorem alone_find?_insert {above : List String} (h : find? entries above = some (.directory inner))
    (hold : ∀ old, entry? inner name = some old → old.alone = old)
    (hnode : node.alone = node) {names : List String} (hne : names ≠ above ++ [name]) :
    (find? (insert entries (above ++ [name]) node) names).map alone =
      (find? entries names).map alone := by
  cases names with
  | nil => rfl
  | cons key names =>
    induction above generalizing entries key names with
    | nil =>
      cases h
      rw [List.nil_append, insert, find?_cons, find?_cons, entry?_setEntry]
      split
      · next hkey =>
        subst hkey
        -- what lay below the name was a file or a link, and has nothing below it either
        have hdeeper : names ≠ [] := fun hnil => hne (by rw [hnil]; rfl)
        rw [Option.bind_some, under_of_alone hnode hdeeper]
        cases hentry : entry? inner name with
        | none => rfl
        | some old => rw [Option.bind_some, under_of_alone (hold old hentry) hdeeper]
      · rfl
    | cons first above ih =>
      obtain ⟨outer, hentry, houter⟩ := exists_entry_of_find? h
      rw [List.cons_append, insert_cons hentry (by simp), find?_cons, find?_cons, entry?_setEntry]
      split
      · next hkey =>
        subst hkey
        rw [hentry, Option.bind_some, Option.bind_some, under_directory, under_directory]
        cases names with
        | nil => rfl
        | cons next names =>
          refine ih houter next names fun heq => hne ?_
          rw [heq, List.cons_append]
      · rfl

end FileNode

namespace FileTree

/-! ## Where paths lead -/

variable {root : List (String × FileNode)} {followLast : Bool}

/-- The steps that lead from a directory, whose names are in reverse, along what is still to do:
one constructor for each way on. -/
inductive Leads (root : List (String × FileNode)) (followLast : Bool) :
    Nat → List String → List String → List String → Prop where
  | here (links : Nat) (place : List String) : Leads root followLast links place [] place
  | stay {links : Nat} {place rest found : List String} {name : String}
    {entries : List (String × FileNode)}
    (hplace : FileNode.find? root place.reverse = some (.directory entries))
    (hname : name = "" ∨ name = ".") (h : Leads root followLast links place rest found) :
    Leads root followLast links place (name :: rest) found
  | up {links : Nat} {place rest found : List String} {entries : List (String × FileNode)}
    (hplace : FileNode.find? root place.reverse = some (.directory entries))
    (h : Leads root followLast links place.tail rest found) :
    Leads root followLast links place (".." :: rest) found
  | missing {links : Nat} {place : List String} {name : String}
    {entries : List (String × FileNode)}
    (hplace : FileNode.find? root place.reverse = some (.directory entries))
    (hname : name ≠ "" ∧ name ≠ "." ∧ name ≠ "..") (hentry : FileNode.entry? entries name = none) :
    Leads root followLast links place [name] (name :: place)
  | link {links : Nat} {place : List String} {name target : String}
    {entries : List (String × FileNode)}
    (hplace : FileNode.find? root place.reverse = some (.directory entries))
    (hname : name ≠ "" ∧ name ≠ "." ∧ name ≠ "..")
    (hentry : FileNode.entry? entries name = some (.link target)) (hlast : followLast = false) :
    Leads root followLast links place [name] (name :: place)
  | follow {links : Nat} {place rest found : List String} {name target : String}
    {entries : List (String × FileNode)}
    (hplace : FileNode.find? root place.reverse = some (.directory entries))
    (hname : name ≠ "" ∧ name ≠ "." ∧ name ≠ "..")
    (hentry : FileNode.entry? entries name = some (.link target))
    (hlast : rest = [] → followLast = true) (htarget : target ≠ "")
    (h : Leads root followLast links (if target.startsWith "/" then [] else place)
      (Text.split '/' target ++ rest) found) :
    Leads root followLast (links + 1) place (name :: rest) found
  | enter {links : Nat} {place rest found : List String} {name : String} {node : FileNode}
    {entries : List (String × FileNode)}
    (hplace : FileNode.find? root place.reverse = some (.directory entries))
    (hname : name ≠ "" ∧ name ≠ "." ∧ name ≠ "..")
    (hentry : FileNode.entry? entries name = some node) (hlink : ∀ target, node ≠ .link target)
    (h : Leads root followLast links (name :: place) rest found) :
    Leads root followLast links place (name :: rest) found

theorem leads_of_walkTo {links : Nat} {place todo found : List String}
    (h : walkTo root followLast links place todo = .ok found) :
    Leads root followLast links place todo found := by
  -- as the walk does, by recursion on the links that may be followed, then on what is to do
  cases todo with
  | nil =>
    rw [walkTo] at h
    cases h
    exact .here links place
  | cons name rest =>
    rw [walkTo] at h
    split at h
    · next entries hplace =>
      split at h
      · next hname => exact .stay hplace (by simpa using hname) (leads_of_walkTo h)
      · next hname =>
        split at h
        · next hup =>
          subst hup
          exact .up hplace (leads_of_walkTo h)
        · next hup =>
          have hcomponent : name ≠ "" ∧ name ≠ "." ∧ name ≠ ".." := by simp_all
          split at h
          · next hentry =>
            split at h
            · next hrest =>
              cases h
              cases List.isEmpty_iff.mp hrest
              exact .missing hplace hcomponent hentry
            · cases h
          · next target hentry =>
            split at h
            · next hlast =>
              rw [Bool.and_eq_true, List.isEmpty_iff, Bool.not_eq_true'] at hlast
              obtain ⟨rfl, hlast⟩ := hlast
              cases h
              exact .link hplace hcomponent hentry hlast
            · next hlast =>
              have hlast : rest = [] → followLast = true := by simpa using hlast
              cases links with
              | zero => cases h
              | succ links =>
                dsimp only at h
                split at h
                · cases h
                · next htarget =>
                  have htarget : target ≠ "" := by simpa using htarget
                  rw [← apply_ite (walkTo root followLast links · (Text.split '/' target ++ rest))]
                    at h
                  exact .follow hplace hcomponent hentry hlast htarget (leads_of_walkTo h)
          · next node hlink hentry =>
            exact .enter hplace hcomponent hentry (fun target heq => hlink target heq)
              (leads_of_walkTo h)
    · cases h
    · cases h
termination_by (links, todo.length)

theorem walkTo_of_leads {links : Nat} {place todo found : List String}
    (h : Leads root followLast links place todo found) :
    walkTo root followLast links place todo = .ok found := by
  induction h with
  | here links place => rw [walkTo]
  | stay hplace hname h ih => simp [walkTo, hplace, hname, ih]
  | up hplace h ih => simp [walkTo, hplace, ih]
  | missing hplace hname hentry => simp [walkTo, hplace, hname, hentry]
  | link hplace hname hentry hlast => simp [walkTo, hplace, hname, hentry, hlast]
  | @follow links place rest found name target entries hplace hname hentry hlast htarget h ih =>
    have hnot : (rest.isEmpty && !followLast) = false := by
      cases rest with
      | nil => rw [hlast rfl]; rfl
      | cons next rest => rfl
    rw [← ih, apply_ite (walkTo root followLast links · (Text.split '/' target ++ rest)), walkTo]
    simp only [hplace, hname, hentry, hnot, String.isEmpty_iff, htarget, decide_false, Bool.or_self,
      Bool.false_eq_true, if_false]
  | enter hplace hname hentry hlink h ih =>
    rw [walkTo]
    simp [hplace, hname, hentry, ih]

/-! ## What is at a place -/

def aloneAt (t : FileTree) (names : List String) : Option FileNode :=
  (FileNode.find? t.root names).map FileNode.alone

variable {t t' t'' : FileTree} {p : Path}

theorem aloneAt_directory {names : List String} {entries : List (String × FileNode)}
    (h : FileNode.find? t.root names = some (.directory entries)) :
    t.aloneAt names = some (.directory []) := by
  rw [aloneAt, h]
  rfl

theorem exists_directory_of_aloneAt {names : List String}
    (h : t.aloneAt names = some (.directory [])) :
    ∃ entries, FileNode.find? t.root names = some (.directory entries) := by
  obtain ⟨node, hnode, halone⟩ := Option.map_eq_some_iff.mp h
  cases node with
  | directory entries => exact ⟨entries, hnode⟩
  | file content | link target => cases halone

theorem find?_of_aloneAt_file {names : List String} {content : List UInt8}
    (h : t.aloneAt names = some (.file content)) :
    FileNode.find? t.root names = some (.file content) := by
  obtain ⟨node, hnode, halone⟩ := Option.map_eq_some_iff.mp h
  cases node with
  | file content =>
    cases halone
    exact hnode
  | directory entries | link target => cases halone

theorem aloneAt_child {place : List String} {entries : List (String × FileNode)}
    (h : FileNode.find? t.root place.reverse = some (.directory entries)) (name : String) :
    t.aloneAt (name :: place).reverse = (FileNode.entry? entries name).map FileNode.alone := by
  rw [aloneAt, List.reverse_cons, FileNode.find?_append, h, Option.bind_some,
    FileNode.under_directory, FileNode.find?_cons]
  cases FileNode.entry? entries name with
  | none => rfl
  | some node => cases node <;> rfl

theorem entry_link_iff {entries : List (String × FileNode)} {name target : String} :
    FileNode.entry? entries name = some (.link target) ↔
      (FileNode.entry? entries name).map FileNode.alone = some (.link target) := by
  cases FileNode.entry? entries name with
  | none => simp
  | some node => cases node <;> simp [FileNode.alone]

theorem exists_directory_above {place : List String} {entries : List (String × FileNode)}
    (h : FileNode.find? t.root place.reverse = some (.directory entries)) :
    ∃ entries', FileNode.find? t.root place.tail.reverse = some (.directory entries') := by
  cases place with
  | nil => exact ⟨_, h⟩
  | cons name place =>
    rw [List.reverse_cons, FileNode.find?_append, Option.bind_eq_some_iff] at h
    obtain ⟨node, hnode, hunder⟩ := h
    obtain ⟨entries', rfl⟩ := FileNode.exists_directory_of_under hunder
    exact ⟨entries', hnode⟩

/-! ## Trees that lead on -/

/-- The later tree has all that the earlier one has, but for contents of files, and no other
links. -/
structure Extends (t t' : FileTree) : Prop where
  cwd : t'.cwd = t.cwd
  directory : ∀ names, t.aloneAt names = some (.directory []) →
    t'.aloneAt names = some (.directory [])
  file : ∀ names content, t.aloneAt names = some (.file content) →
    ∃ content', t'.aloneAt names = some (.file content')
  link : ∀ names target, t'.aloneAt names = some (.link target) ↔
    t.aloneAt names = some (.link target)

theorem Extends.trans (h : t.Extends t') (h' : t'.Extends t'') : t.Extends t'' where
  cwd := h'.cwd.trans h.cwd
  directory names hnames := h'.directory names (h.directory names hnames)
  file names content hnames := by
    obtain ⟨content', hnames'⟩ := h.file names content hnames
    exact h'.file names content' hnames'
  link names target := (h'.link names target).trans (h.link names target)

section Kept

variable {place : List String} {entries entries' : List (String × FileNode)}
  {name target : String} {node : FileNode}

theorem Extends.exists_directory (hextends : t.Extends t')
    (hplace : FileNode.find? t.root place.reverse = some (.directory entries)) :
    ∃ entries', FileNode.find? t'.root place.reverse = some (.directory entries') :=
  exists_directory_of_aloneAt (hextends.directory _ (aloneAt_directory hplace))

theorem Extends.entry_link_iff (hextends : t.Extends t')
    (hplace : FileNode.find? t.root place.reverse = some (.directory entries))
    (hplace' : FileNode.find? t'.root place.reverse = some (.directory entries')) :
    FileNode.entry? entries' name = some (.link target) ↔
      FileNode.entry? entries name = some (.link target) := by
  rw [FileTree.entry_link_iff, ← aloneAt_child hplace', hextends.link, aloneAt_child hplace,
    ← FileTree.entry_link_iff]

theorem Extends.exists_entry (hextends : t.Extends t')
    (hplace : FileNode.find? t.root place.reverse = some (.directory entries))
    (hplace' : FileNode.find? t'.root place.reverse = some (.directory entries'))
    (hentry : FileNode.entry? entries name = some node) (hlink : ∀ target, node ≠ .link target) :
    ∃ node', FileNode.entry? entries' name = some node' := by
  have hchild := aloneAt_child hplace name
  have hchild' := aloneAt_child hplace' name
  rw [hentry] at hchild
  cases node with
  | directory inner =>
    rw [hextends.directory _ hchild] at hchild'
    obtain ⟨node', hnode', -⟩ := Option.map_eq_some_iff.mp hchild'.symm
    exact ⟨node', hnode'⟩
  | file content =>
    obtain ⟨content', hcontent'⟩ := hextends.file _ _ hchild
    rw [hcontent'] at hchild'
    obtain ⟨node', hnode', -⟩ := Option.map_eq_some_iff.mp hchild'.symm
    exact ⟨node', hnode'⟩
  | link target => exact absurd rfl (hlink target)

end Kept

theorem Leads.extend (hextends : t.Extends t') {links : Nat} {place todo found : List String}
    (h : Leads t.root followLast links place todo found) :
    Leads t'.root followLast links place todo found := by
  induction h with
  | here links place => exact .here links place
  | stay hplace hname h ih =>
    obtain ⟨entries', hplace'⟩ := hextends.exists_directory hplace
    exact .stay hplace' hname ih
  | up hplace h ih =>
    obtain ⟨entries', hplace'⟩ := hextends.exists_directory hplace
    exact .up hplace' ih
  | @missing links place name entries hplace hname hentry =>
    obtain ⟨entries', hplace'⟩ := hextends.exists_directory hplace
    -- the name may have been given to a file or a directory since, but to no link
    cases hentry' : FileNode.entry? entries' name with
    | none => exact .missing hplace' hname hentry'
    | some node =>
      refine .enter hplace' hname hentry' ?_ (.here links _)
      rintro target rfl
      cases hentry.symm.trans ((hextends.entry_link_iff hplace hplace').mp hentry')
  | link hplace hname hentry hlast =>
    obtain ⟨entries', hplace'⟩ := hextends.exists_directory hplace
    exact .link hplace' hname ((hextends.entry_link_iff hplace hplace').mpr hentry) hlast
  | follow hplace hname hentry hlast htarget h ih =>
    obtain ⟨entries', hplace'⟩ := hextends.exists_directory hplace
    have hentry' := (hextends.entry_link_iff hplace hplace').mpr hentry
    exact .follow hplace' hname hentry' hlast htarget ih
  | enter hplace hname hentry hlink h ih =>
    obtain ⟨entries', hplace'⟩ := hextends.exists_directory hplace
    obtain ⟨node', hentry'⟩ := hextends.exists_entry hplace hplace' hentry hlink
    refine .enter hplace' hname hentry' ?_ ih
    rintro target rfl
    have hlinked := (hextends.entry_link_iff hplace hplace').mp hentry'
    exact hlink target (Option.some.inj (hentry.symm.trans hlinked))

theorem Extends.locate (h : t.Extends t') {place : List String}
    (hlocate : t.locate followLast p = .ok place) : t'.locate followLast p = .ok place := by
  rw [FileTree.locate, h.cwd]
  exact walkTo_of_leads ((leads_of_walkTo hlocate).extend h)

/-- A path that leads to no link leads there by following links, too. -/
theorem Leads.followed {links : Nat} {place todo found : List String}
    (h : Leads t.root false links place todo found)
    (hfound : ∀ target, t.aloneAt found.reverse ≠ some (.link target)) :
    Leads t.root true links place todo found := by
  induction h with
  | here links place => exact .here links place
  | stay hplace hname h ih => exact .stay hplace hname (ih hfound)
  | up hplace h ih => exact .up hplace (ih hfound)
  | missing hplace hname hentry => exact .missing hplace hname hentry
  | @link links place name target entries hplace hname hentry hlast =>
    have hlink : t.aloneAt (name :: place).reverse = some (.link target) := by
      rw [aloneAt_child hplace, hentry]
      rfl
    exact absurd hlink (hfound target)
  | follow hplace hname hentry hlast htarget h ih =>
    exact .follow hplace hname hentry (fun _ => rfl) htarget (ih hfound)
  | enter hplace hname hentry hlink h ih => exact .enter hplace hname hentry hlink (ih hfound)

theorem Leads.not_link {links : Nat} {place todo found : List String}
    (h : Leads t.root true links place todo found)
    (hstart : ∀ target, t.aloneAt place.reverse ≠ some (.link target)) (target : String) :
    t.aloneAt found.reverse ≠ some (.link target) := by
  have hdirectory : ∀ {place : List String} {entries : List (String × FileNode)},
      FileNode.find? t.root place.reverse = some (.directory entries) →
      ∀ target, t.aloneAt place.reverse ≠ some (.link target) := by
    intro place entries hplace target
    rw [aloneAt_directory hplace]
    nofun
  induction h with
  | here links place => exact hstart target
  | stay hplace hname h ih => exact ih (hdirectory hplace)
  | up hplace h ih =>
    obtain ⟨entries', habove⟩ := exists_directory_above hplace
    exact ih (hdirectory habove)
  | missing hplace hname hentry =>
    rw [aloneAt_child hplace, hentry]
    nofun
  | link hplace hname hentry hlast => cases hlast
  | follow hplace hname hentry hlast htarget h ih =>
    refine ih ?_
    split
    · exact hdirectory rfl
    · exact hdirectory hplace
  | enter hplace hname hentry hlink h ih =>
    refine ih ?_
    intro target
    rw [aloneAt_child hplace, Ne, ← entry_link_iff, hentry]
    exact fun heq => hlink target (Option.some.inj heq)

/-! ## Writing -/

/-- One place of the tree is set to a node; the rest is as it was. -/
structure Sets (t t' : FileTree) (names : List String) (node : FileNode) : Prop where
  cwd : t'.cwd = t.cwd
  there : t'.aloneAt names = some node
  elsewhere : ∀ others ≠ names, t'.aloneAt others = t.aloneAt others

theorem sets_insert {place : List String} {entries : List (String × FileNode)} (node : FileNode)
    (hparent : FileNode.find? t.root place.tail.reverse = some (.directory entries))
    (hold : ∀ entries', FileNode.find? t.root place.reverse ≠ some (.directory entries'))
    (hnode : node.alone = node) :
    t.Sets { t with root := FileNode.insert t.root place.reverse node } place.reverse node := by
  cases place with
  | nil => exact absurd hparent (hold entries)
  | cons name place =>
    rw [List.tail_cons] at hparent
    refine ⟨rfl, ?_, ?_⟩
    · rw [aloneAt, List.reverse_cons, FileNode.find?_insert_self hparent, Option.map_some, hnode]
    · intro others hne
      rw [List.reverse_cons] at hne ⊢
      refine FileNode.alone_find?_insert hparent ?_ hnode hne
      intro old hentry
      cases old with
      | file content | link target => rfl
      | directory inner =>
        refine absurd ?_ (hold inner)
        rw [List.reverse_cons, FileNode.find?_append, hparent, Option.bind_some,
          FileNode.under_directory, FileNode.find?_cons, hentry]
        rfl

theorem Sets.extends {names : List String} {node : FileNode} (h : t.Sets t' names node)
    (hold : t.aloneAt names = none ∨
      ∃ content content', t.aloneAt names = some (.file content) ∧ node = .file content')
    (hnode : ∀ target, node ≠ .link target) : t.Extends t' := by
  refine ⟨h.cwd, ?_, ?_, ?_⟩
  · intro others hothers
    have hne : others ≠ names := by
      rintro rfl
      rcases hold with hnone | ⟨content, content', hfile, -⟩
      · cases hothers.symm.trans hnone
      · cases hothers.symm.trans hfile
    rwa [h.elsewhere others hne]
  · intro others content hothers
    by_cases heq : others = names
    · subst heq
      rcases hold with hnone | ⟨-, content', -, rfl⟩
      · cases hothers.symm.trans hnone
      · exact ⟨content', h.there⟩
    · exact ⟨content, by rwa [h.elsewhere others heq]⟩
  · intro others target
    by_cases heq : others = names
    · subst heq
      rw [h.there]
      constructor
      · exact fun hlink => absurd (Option.some.inj hlink) (hnode target)
      · intro hlink
        rcases hold with hnone | ⟨content, -, hfile, -⟩
        · cases hlink.symm.trans hnone
        · cases hlink.symm.trans hfile
    · rw [h.elsewhere others heq]

/-- Directories are added, and each of them is where a path leads to that is `p` or goes before
it. -/
structure Grows (t t' : FileTree) (p : Path) : Prop extends t.Extends t' where
  kept : ∀ names, t.aloneAt names ≠ none → t'.aloneAt names = t.aloneAt names
  made : ∀ names, t.aloneAt names = none → t'.aloneAt names ≠ none →
    t'.aloneAt names = some (.directory []) ∧
      ∃ q : Path, q.root = p.root ∧ q.parts <+: p.parts ∧ t'.locate true q = .ok names.reverse

theorem Grows.refl (t : FileTree) (p : Path) : t.Grows t p where
  cwd := rfl
  directory _ h := h
  file _ content h := ⟨content, h⟩
  link _ _ := Iff.rfl
  kept _ _ := rfl
  made _ hnone hsome := absurd hnone hsome

theorem Grows.trans {above : Path} (h : t.Grows t' above) (hroot : above.root = p.root)
    (hparts : above.parts <+: p.parts) (h' : t'.Grows t'' p) : t.Grows t'' p where
  toExtends := h.toExtends.trans h'.toExtends
  kept names hnames := by
    have hkept := h.kept names hnames
    rw [h'.kept names (hkept ▸ hnames), hkept]
  made names hnone hsome := by
    by_cases hthere : t'.aloneAt names = none
    · exact h'.made names hthere hsome
    · obtain ⟨hdirectory, q, hq, hbefore, hlocate⟩ := h.made names hnone hthere
      refine ⟨?_, q, hq.trans hroot, hbefore.trans hparts, h'.toExtends.locate hlocate⟩
      rw [h'.kept names hthere, hdirectory]

theorem exists_sets_of_makeDirectory (h : t.makeDirectory p = .ok t') :
    ∃ place, t.aloneAt place.reverse = none ∧ t.Sets t' place.reverse (.directory []) ∧
      t'.locate true p = .ok place := by
  obtain ⟨place, hlocate, h⟩ := Fallible.bind_eq_ok.mp h
  split at h
  · cases h
  · next hmissing =>
    split at h
    · next entries hparent =>
      cases h
      have hnone : t.aloneAt place.reverse = none := by
        rw [aloneAt, hmissing]
        rfl
      have hsets := sets_insert (.directory []) hparent (by rw [hmissing]; nofun) rfl
      refine ⟨place, hnone, hsets, (hsets.extends (.inl hnone) nofun).locate ?_⟩
      refine walkTo_of_leads ((leads_of_walkTo hlocate).followed ?_)
      rw [hnone]
      nofun
    · cases h

theorem grows_of_makeDirectory (h : t.makeDirectory p = .ok t') : t.Grows t' p := by
  obtain ⟨place, hnone, hsets, hlocate⟩ := exists_sets_of_makeDirectory h
  refine ⟨hsets.extends (.inl hnone) nofun, ?_, ?_⟩
  · rintro names hnames
    exact hsets.elsewhere names fun heq => hnames (heq ▸ hnone)
  · intro names hnames hsome
    have hplace : names = place.reverse := by
      by_contra hne
      exact hsome ((hsets.elsewhere names hne).trans hnames)
    refine ⟨hplace ▸ hsets.there, p, rfl, List.prefix_rfl, ?_⟩
    rwa [hplace, List.reverse_reverse]

/-- How a directory comes to be there: it is made, after those around it, or it was there. -/
inductive Makes : FileTree → Path → FileTree → Prop where
  | made {t t' : FileTree} {p : Path} (h : t.makeDirectory p = .ok t') : Makes t p t'
  | around {t t' t'' : FileTree} {p : Path} (habove : Makes t p.parent t') (h : Makes t' p t'') :
    Makes t p t''
  | there {t : FileTree} {p : Path} (h : t.isDirectory p = true) : Makes t p t

theorem makes_of_makeDirectories {depth : Nat} (h : t.makeDirectories p depth = (t', none)) :
    Makes t p t' := by
  induction t, p, depth using makeDirectories.induct generalizing t' with
  | case1 t p depth made hmade =>
    rw [makeDirectories.eq_1 t p depth made hmade] at h
    cases h
    exact .made hmade
  | case2 t p depth hmissing above habove ihabove ih =>
    rw [makeDirectories.eq_2 t p depth hmissing, habove] at h
    exact .around (ihabove habove) (ih h)
  | case3 t p depth hmissing hfailed ih =>
    rw [makeDirectories.eq_2 t p depth hmissing] at h
    split at h
    · next above habove => exact absurd habove (hfailed above)
    · exact absurd h (hfailed t')
  | case4 t p depth e hfailed hlast =>
    rw [makeDirectories.eq_3 t p depth e hfailed hlast, Prod.mk.injEq, ite_eq_left_iff] at h
    obtain ⟨rfl, hdirectory⟩ := h
    refine .there ?_
    by_contra hnot
    cases hdirectory hnot

theorem Makes.grows (h : Makes t p t') : t.Grows t' p := by
  induction h with
  | made h => exact grows_of_makeDirectory h
  | around habove h ihabove ih => exact ihabove.trans rfl (List.dropLast_prefix _) ih
  | there h => exact .refl _ _

theorem isDirectory_of_locate {place : List String} (hlocate : t.locate true p = .ok place)
    (hplace : t.aloneAt place.reverse = some (.directory [])) : t.isDirectory p = true := by
  obtain ⟨entries, hentries⟩ := exists_directory_of_aloneAt hplace
  rw [isDirectory, entries?, get_of_find hlocate hentries]
  rfl

theorem Makes.isDirectory (h : Makes t p t') : t'.isDirectory p = true := by
  induction h with
  | made h =>
    obtain ⟨place, -, hsets, hlocate⟩ := exists_sets_of_makeDirectory h
    exact isDirectory_of_locate hlocate hsets.there
  | around habove h ihabove ih => exact ih
  | there h => exact h

theorem isDirectory_of_write {content : List UInt8} (h : t.write p content = .ok t') :
    t.isDirectory p = false := by
  obtain ⟨place, hlocate, h⟩ := Fallible.bind_eq_ok.mp h
  rw [isDirectory, entries?]
  split at h
  · cases h
  · next hfile =>
    cases hfound : FileNode.find? t.root place.reverse with
    | none =>
      rw [get_of_missing hlocate hfound]
      rfl
    | some node =>
      rw [get_of_find hlocate hfound]
      cases node with
      | directory entries => exact absurd hfound (hfile entries)
      | file old | link target => rfl

theorem Leads.start_directory {links : Nat} {place todo found : List String}
    (h : Leads t.root followLast links place todo found) (htodo : todo ≠ []) :
    t.aloneAt place.reverse = some (.directory []) := by
  cases h with
  | here => exact absurd rfl htodo
  | stay hplace | up hplace | missing hplace | link hplace | follow hplace | enter hplace =>
    exact aloneAt_directory hplace

/-- What writes a file: the path leads to it, and it holds the content; there was a file before, or
nothing. -/
theorem exists_sets_of_write {content : List UInt8} (hparts : p.parts ≠ [])
    (h : t.write p content = .ok t') :
    ∃ place, t.Extends t' ∧ t.Sets t' place.reverse (.file content) ∧
      t'.locate true p = .ok place := by
  obtain ⟨place, hlocate, h⟩ := Fallible.bind_eq_ok.mp h
  split at h
  · cases h
  · next hfile =>
    split at h
    · next entries hparent =>
      cases h
      have hsets := sets_insert (.file content) hparent hfile rfl
      have hleads := leads_of_walkTo hlocate
      have hlink : ∀ target, t.aloneAt place.reverse ≠ some (.link target) := by
        refine hleads.not_link ?_
        intro target
        rw [hleads.start_directory hparts]
        nofun
      have hold : t.aloneAt place.reverse = none ∨ ∃ old content',
          t.aloneAt place.reverse = some (.file old) ∧
            FileNode.file content = .file content' := by
        cases hnode : FileNode.find? t.root place.reverse with
        | none => exact .inl (by rw [aloneAt, hnode]; rfl)
        | some node =>
          cases node with
          | directory inner => exact absurd hnode (hfile inner)
          | link target => exact absurd (by rw [aloneAt, hnode]; rfl) (hlink target)
          | file old => exact .inr ⟨old, content, by rw [aloneAt, hnode]; rfl, rfl⟩
      have hextends := hsets.extends hold nofun
      exact ⟨place, hextends, hsets, hextends.locate hlocate⟩
    · cases h

theorem read_of_write {content : List UInt8} (hparts : p.parts ≠ [])
    (h : t.write p content = .ok t') : t'.read p = .ok content := by
  obtain ⟨place, -, hsets, hlocate⟩ := exists_sets_of_write hparts h
  exact read_of_file (get_of_find hlocate (find?_of_aloneAt_file hsets.there))

/-- What is left of a tree in which a report has been saved: the path leads to the report, and
nothing else has changed but that directories which were missing, and which are where a path
around that of the report leads to, have been made. -/
structure Saves (t t' : FileTree) (p : Path) (content : List UInt8) : Prop where
  cwd : t'.cwd = t.cwd
  read : t'.read p = .ok content
  changed : ∀ names, t'.aloneAt names ≠ t.aloneAt names →
    t'.locate true p = .ok names.reverse ∨
      t.aloneAt names = none ∧ t'.aloneAt names = some (.directory []) ∧
        ∃ q : Path, q.root = p.root ∧ q.parts <+: p.parent.parts ∧
          t'.locate true q = .ok names.reverse

theorem saves_of_write {content : List UInt8} {depth : Nat}
    (hmade : t.makeDirectories p.parent depth = (t', none))
    (hwritten : t'.write p content = .ok t'') : t.Saves t'' p content := by
  -- a path without names is its own parent, and that is a directory by now
  have hparts : p.parts ≠ [] := by
    intro hnil
    have hparent : p.parent = p := by
      obtain ⟨root, parts⟩ := p
      cases hnil
      rfl
    have hdirectory := (makes_of_makeDirectories hmade).isDirectory
    rw [hparent, isDirectory_of_write hwritten] at hdirectory
    cases hdirectory
  have hgrows := (makes_of_makeDirectories hmade).grows
  obtain ⟨place, hextends, hsets, hlocate⟩ := exists_sets_of_write hparts hwritten
  refine ⟨hextends.cwd.trans hgrows.cwd, read_of_write hparts hwritten, ?_⟩
  · intro names hchanged
    by_cases hplace : names = place.reverse
    · refine .inl ?_
      rw [hlocate, hplace, List.reverse_reverse]
    · rw [hsets.elsewhere names hplace] at hchanged ⊢
      have hnone : t.aloneAt names = none := by
        by_contra hsome
        exact hchanged (hgrows.kept names hsome)
      obtain ⟨hdirectory, q, hroot, hbefore, hq⟩ :=
        hgrows.made names hnone (hnone ▸ hchanged)
      exact .inr ⟨hnone, hdirectory, q, hroot, hbefore, hextends.locate hq⟩

end FileTree

end LineCensus
