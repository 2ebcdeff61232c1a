import LineCensus.Proofs.Files.Collected
import LineCensus.Proofs.Files.Walked
import LineCensus.Proofs.Files.Written

/-!
# Hidden files

A walk that passes over hidden names goes by what is left of a directory without its hidden files
and links.  So a file with a hidden name that is written makes no difference to what is collected,
nor to what is read there, unless a path leads to that very file.
-/

namespace LineCensus

/-! ## Directories without hidden files -/

namespace FileNode

/-- The entries without hidden files and hidden links, in this directory and in all below it. -/
def withoutHidden : List (String × FileNode) → List (String × FileNode)
  | [] => []
  | (name, .directory inner) :: rest =>
    (name, .directory (withoutHidden inner)) :: withoutHidden rest
  | (name, .file content) :: rest =>
    if Walk.isHidden name then withoutHidden rest else (name, .file content) :: withoutHidden rest
  | (name, .link target) :: rest =>
    if Walk.isHidden name then withoutHidden rest else (name, .link target) :: withoutHidden rest
decreasing_by
  all_goals
    simp only [List.cons.sizeOf_spec, Prod.mk.sizeOf_spec, FileNode.directory.sizeOf_spec]
    omega

variable {entries inner inner' rest rest' : List (String × FileNode)} {name : String}
  {node : FileNode} {content : List UInt8}

theorem withoutHidden_cons_congr (h : withoutHidden rest = withoutHidden rest')
    (entry : String × FileNode) :
    withoutHidden (entry :: rest) = withoutHidden (entry :: rest') := by
  obtain ⟨name, node⟩ := entry
  cases node <;> simp only [withoutHidden, h]

theorem withoutHidden_cons_hidden (hname : Walk.isHidden name = true)
    (hnode : ∀ inner, node ≠ .directory inner) (rest : List (String × FileNode)) :
    withoutHidden ((name, node) :: rest) = withoutHidden rest := by
  cases node with
  | directory inner => exact absurd rfl (hnode inner)
  | file content | link target => rw [withoutHidden, if_pos hname]

theorem withoutHidden_setEntry_file (hname : Walk.isHidden name = true)
    (hold : ∀ inner, entry? entries name ≠ some (.directory inner)) (content : List UInt8) :
    withoutHidden (setEntry entries name (.file content)) = withoutHidden entries := by
  have hfile : ∀ inner, FileNode.file content ≠ .directory inner := nofun
  induction entries with
  | nil => exact withoutHidden_cons_hidden hname hfile []
  | cons first rest ih =>
    obtain ⟨other, old⟩ := first
    rw [setEntry]
    split
    · next heq =>
      subst heq
      have hnode : ∀ inner, old ≠ .directory inner := by
        intro inner hdirectory
        exact hold inner (by rw [entry?_cons, if_pos rfl, hdirectory])
      rw [withoutHidden_cons_hidden hname hfile, withoutHidden_cons_hidden hname hnode]
    · next hne =>
      split
      · exact withoutHidden_cons_hidden hname hfile _
      · refine withoutHidden_cons_congr (ih fun inner hentry => hold inner ?_) _
        rw [entry?_cons, if_neg hne, hentry]

/-- In an ordered directory, a subdirectory is replaced where it is. -/
theorem withoutHidden_setEntry_directory (hordered : OrderedEntries entries)
    (hentry : entry? entries name = some (.directory inner))
    (h : withoutHidden inner' = withoutHidden inner) :
    withoutHidden (setEntry entries name (.directory inner')) = withoutHidden entries := by
  induction entries with
  | nil => cases hentry
  | cons first rest ih =>
    obtain ⟨other, old⟩ := first
    obtain ⟨hlt, -, hrest⟩ := orderedEntries_cons.mp hordered
    rw [entry?_cons] at hentry
    rw [setEntry]
    split at hentry
    · next heq =>
      cases hentry
      rw [if_pos heq, withoutHidden, withoutHidden, h, heq]
    · next hne =>
      have hafter := hlt _ ((entry?_eq_some_iff hrest).mp hentry)
      rw [if_neg hne, if_neg (String.lt_asymm hafter)]
      exact withoutHidden_cons_congr (ih hrest hentry) _

theorem withoutHidden_insert (hordered : OrderedEntries entries) {above : List String}
    (habove : find? entries above = some (.directory inner)) (hname : Walk.isHidden name = true)
    (hold : ∀ inner', entry? inner name ≠ some (.directory inner')) (content : List UInt8) :
    withoutHidden (insert entries (above ++ [name]) (.file content)) = withoutHidden entries := by
  induction above generalizing entries with
  | nil =>
    cases habove
    exact withoutHidden_setEntry_file hname hold content
  | cons first above ih =>
    obtain ⟨outer, hentry, houter⟩ := exists_entry_of_find? habove
    have houter_ordered := ordered_of_mem hordered ((entry?_eq_some_iff hordered).mp hentry)
    rw [List.cons_append, insert_cons hentry (by simp)]
    exact withoutHidden_setEntry_directory hordered hentry (ih houter_ordered houter)

theorem entry?_withoutHidden (h : entry? entries name = some (.directory inner)) :
    entry? (withoutHidden entries) name = some (.directory (withoutHidden inner)) := by
  induction entries with
  | nil => cases h
  | cons first rest ih =>
    obtain ⟨other, old⟩ := first
    rw [entry?_cons] at h
    split at h
    · next heq =>
      cases h
      rw [withoutHidden, entry?_cons, if_pos heq]
    · next hne =>
      by_cases hdropped : Walk.isHidden other = true ∧ ∀ inner, old ≠ .directory inner
      · rw [withoutHidden_cons_hidden hdropped.1 hdropped.2, ih h]
      · cases old with
        | directory inner => rw [withoutHidden, entry?_cons, if_neg hne, ih h]
        | file content | link target =>
          rw [withoutHidden, if_neg (fun hhidden => hdropped ⟨hhidden, nofun⟩), entry?_cons,
            if_neg hne, ih h]

theorem find?_withoutHidden {names : List String}
    (h : find? entries names = some (.directory inner)) :
    find? (withoutHidden entries) names = some (.directory (withoutHidden inner)) := by
  induction names generalizing entries with
  | nil =>
    cases h
    rfl
  | cons name names ih =>
    obtain ⟨outer, hentry, houter⟩ := exists_entry_of_find? h
    rw [find?_cons, entry?_withoutHidden hentry, Option.bind_some, under_directory, ih houter]

theorem withoutHidden_eq_of_find? {entries' : List (String × FileNode)}
    (h : withoutHidden entries' = withoutHidden entries) {names : List String}
    (hfind : find? entries names = some (.directory inner))
    (hfind' : find? entries' names = some (.directory inner')) :
    withoutHidden inner' = withoutHidden inner := by
  have hleft' := find?_withoutHidden hfind'
  rw [h, find?_withoutHidden hfind] at hleft'
  exact (FileNode.directory.inj (Option.some.inj hleft')).symm

end FileNode

/-! ## Walks that pass over hidden names -/

namespace Walk

open FileNode (withoutHidden)

variable {r : Rules} (hr : r.includeHidden = false) {above : List String}

include hr

theorem visible_eq (name : String) : r.visible name = !isHidden name := by
  rw [Rules.visible, hr, Bool.false_or]

theorem keepsFile_of_hidden {name : String} (hname : isHidden name = true) :
    r.keepsFile above name = .ok false := by
  rw [Rules.keepsFile, visible_eq hr, hname]
  rfl

theorem filesOf_withoutHidden (entries : List (String × FileNode)) :
    filesOf r above (withoutHidden entries) = filesOf r above entries := by
  induction entries with
  | nil => rw [withoutHidden]
  | cons first rest ih =>
    obtain ⟨name, node⟩ := first
    cases node with
    | directory inner => rw [withoutHidden, filesOf, filesOf, ih]
    | file content =>
      rw [withoutHidden]
      split
      · next hname =>
        rw [filesOf, keepsFile_of_hidden hr hname, ih]
        cases filesOf r above rest <;> rfl
      · rw [filesOf, filesOf, ih]
    | link target =>
      rw [withoutHidden]
      split
      · next hname =>
        rw [filesOf, keepsFile_of_hidden hr hname, ih]
        rfl
      · rw [filesOf, filesOf, ih]

theorem below_withoutHidden (entries : List (String × FileNode)) :
    below r above (withoutHidden entries) = below r above entries := by
  induction above, entries using below.induct with
  | case1 above => rw [withoutHidden]
  | case2 above name inner rest ihrest ihinner =>
    rw [withoutHidden, below, below, ihrest, ihinner, filesOf_withoutHidden hr]
  | case3 above entry rest hentry ih =>
    obtain ⟨name, node⟩ := entry
    cases node with
    | directory inner => exact absurd rfl (hentry name inner)
    | file content | link target =>
      rw [withoutHidden]
      split
      · rw [ih, below.eq_3 _ _ _ _ hentry]
      · rw [below.eq_3 _ _ _ _ hentry, below.eq_3 _ _ _ _ hentry, ih]

theorem walk_withoutHidden (entries : List (String × FileNode)) :
    walk r (withoutHidden entries) = walk r entries := by
  rw [walk, walk, filesOf_withoutHidden hr, below_withoutHidden hr]

theorem walk_eq_of_withoutHidden {entries entries' : List (String × FileNode)}
    (h : withoutHidden entries' = withoutHidden entries) : walk r entries' = walk r entries := by
  rw [← walk_withoutHidden hr entries', h, walk_withoutHidden hr]

/-! ## The files that such a walk yields -/

/-- A file below a directory, with no hidden name on the way. -/
structure InSight (entries : List (String × FileNode)) (names : List String) : Prop where
  file : ∃ content, FileNode.find? entries names = some (.file content)
  shown : ∀ name ∈ names, isHidden name = false

theorem isHidden_of_visible {name : String} (h : r.visible name = true) : isHidden name = false := by
  rwa [visible_eq hr, Bool.not_eq_true'] at h

theorem Enters.shown {entries last : List (String × FileNode)} {names : List String}
    (h : Enters r above entries names last) : ∀ name ∈ names, isHidden name = false := by
  induction h with
  | here => exact List.forall_mem_nil _
  | inside _ henters _ ih =>
    exact List.forall_mem_cons.mpr ⟨isHidden_of_visible hr (enters_iff.mp henters).2.1, ih⟩

omit hr in
theorem Enters.find? {entries last : List (String × FileNode)} {names : List String}
    (h : Enters r above entries names last) (hordered : FileNode.OrderedEntries entries) :
    FileNode.find? entries names = some (.directory last) ∧ FileNode.OrderedEntries last := by
  induction h with
  | here above entries => exact ⟨by rw [FileNode.find?], hordered⟩
  | inside hmem _ _ ih =>
    obtain ⟨hfind, hlast⟩ := ih (FileNode.ordered_of_mem hordered hmem)
    refine ⟨?_, hlast⟩
    rw [FileNode.find?_cons, (FileNode.entry?_eq_some_iff hordered).mpr hmem, Option.bind_some,
      FileNode.under_directory, hfind]

theorem inSight_of_finds {entries : List (String × FileNode)} {names : List String}
    (hordered : FileNode.OrderedEntries entries) (h : Finds r above entries names) :
    InSight entries names := by
  obtain ⟨outer, name, inner, content, rfl, henters, hfile, hkept⟩ := h
  obtain ⟨hfind, hinner⟩ := henters.find? hordered
  refine ⟨⟨content, ?_⟩, ?_⟩
  · rw [FileNode.find?_append, hfind, Option.bind_some, FileNode.under_directory]
    exact (FileNode.entry?_eq_some_iff hinner).mpr hfile
  · have hname := isHidden_of_visible hr (keepsFile_iff.mp hkept).1
    exact List.forall_mem_append.mpr ⟨henters.shown hr, List.forall_mem_singleton.mpr hname⟩

end Walk

namespace FileTree

variable {t t' : FileTree} {p : Path} {place : List String}

/-! ## Paths into directories -/

theorem Leads.append {root entries : List (String × FileNode)} {links : Nat}
    {start todo middle more found : List String} (h : Leads root true links start todo middle)
    (hmiddle : FileNode.find? root middle.reverse = some (.directory entries))
    (hmore : ∀ links, Leads root true links middle more found) :
    Leads root true links start (todo ++ more) found := by
  induction h with
  | here links place => exact hmore links
  | stay hplace hname h ih => exact .stay hplace hname (ih hmiddle hmore)
  | up hplace h ih => exact .up hplace (ih hmiddle hmore)
  | missing hplace hname hentry =>
    rw [List.reverse_cons, FileNode.find?_append, hplace, Option.bind_some,
      FileNode.under_directory, FileNode.find?_cons, hentry] at hmiddle
    cases hmiddle
  | link hplace hname hentry hlast => cases hlast
  | follow hplace hname hentry hlast htarget h ih =>
    have hrest := ih hmiddle hmore
    rw [List.append_assoc] at hrest
    exact .follow hplace hname hentry (fun _ => rfl) htarget hrest
  | enter hplace hname hentry hlink h ih =>
    exact .enter hplace hname hentry hlink (ih hmiddle hmore)

/-- Names of a file below a directory, none of them hidden, lead there. -/
theorem leads_of_inSight (ht : t.Proper) {entries : List (String × FileNode)}
    (hplace : FileNode.find? t.root place.reverse = some (.directory entries))
    {names : List String} (h : Walk.InSight entries names) (links : Nat) :
    Leads t.root true links place names (names.reverse ++ place) := by
  induction names generalizing place entries with
  | nil => exact .here links place
  | cons name names ih =>
    obtain ⟨⟨content, hfile⟩, hshown⟩ := h
    obtain ⟨hname, hnames⟩ := List.forall_mem_cons.mp hshown
    rw [FileNode.find?_cons, Option.bind_eq_some_iff] at hfile
    obtain ⟨node, hentry, hunder⟩ := hfile
    have hcomponent : name ≠ "" ∧ name ≠ "." ∧ name ≠ ".." := by
      have hproper : FileNode.ProperEntries entries := FileNode.proper_find? ht hplace
      refine ⟨(FileNode.isComponent_of_entry hproper hentry).1, ?_, ?_⟩
      · rintro rfl
        exact absurd hname (by decide +kernel)
      · rintro rfl
        exact absurd hname (by decide +kernel)
    have hnode : FileNode.find? t.root (name :: place).reverse = some node := by
      rw [List.reverse_cons, FileNode.find?_append, hplace, Option.bind_some,
        FileNode.under_directory, FileNode.find?_cons, hentry]
      cases node <;> rfl
    have hlink : ∀ target, node ≠ .link target := by
      rintro target rfl
      cases names <;> cases hunder
    refine .enter hplace hcomponent hentry hlink ?_
    rw [List.reverse_cons, List.append_assoc, List.singleton_append]
    cases node with
    | directory inner =>
      rw [FileNode.under_directory] at hunder
      exact ih hnode ⟨⟨content, hunder⟩, hnames⟩
    | link target => exact absurd rfl (hlink target)
    | file bytes =>
      cases names with
      | nil => exact .here links _
      | cons next names => cases hunder

theorem locate_of_inSight (ht : t.Proper) {entries : List (String × FileNode)}
    (hlocate : t.locate true p = .ok place)
    (hplace : FileNode.find? t.root place.reverse = some (.directory entries))
    {names : List String} (h : Walk.InSight entries names) :
    t.locate true { p with parts := p.parts ++ names } = .ok (names.reverse ++ place) := by
  rw [FileTree.locate] at hlocate ⊢
  exact walkTo_of_leads ((leads_of_walkTo hlocate).append hplace (leads_of_inSight ht hplace h))

/-! ## Trees that differ in a hidden file -/

/-- The later tree has a file at a place with a hidden name, where the earlier one has a file or
nothing; otherwise they are the same.  The names of the place are in reverse. -/
structure Hides (t t' : FileTree) (place : List String) : Prop extends t.Extends t' where
  hidden : ∀ name ∈ place.head?, Walk.isHidden name = true
  there : ∃ content, t'.aloneAt place.reverse = some (.file content)
  elsewhere : ∀ names ≠ place.reverse, t'.aloneAt names = t.aloneAt names
  shown : FileNode.withoutHidden t'.root = FileNode.withoutHidden t.root

theorem hides_of_write (ht : t.Ordered) {name : String} (hparts : p.parts ≠ [])
    (hlocate : t.locate true p = .ok (name :: place)) (hname : Walk.isHidden name = true)
    {content : List UInt8} (h : t.write p content = .ok t') : t.Hides t' (name :: place) := by
  obtain ⟨found, hextends, hsets, hfound⟩ := exists_sets_of_write hparts h
  cases (hextends.locate hlocate).symm.trans hfound
  refine ⟨hextends, by simpa using hname, ⟨content, hsets.there⟩, hsets.elsewhere, ?_⟩
  obtain ⟨found, hfound, h⟩ := Fallible.bind_eq_ok.mp h
  cases hlocate.symm.trans hfound
  split at h
  · cases h
  · next hold =>
    split at h
    · next entries hparent =>
      cases h
      rw [List.tail_cons] at hparent
      rw [List.reverse_cons] at hold ⊢
      refine FileNode.withoutHidden_insert ht hparent hname ?_ content
      intro inner hentry
      apply hold inner
      rw [FileNode.find?_append, hparent, Option.bind_some, FileNode.under_directory,
        FileNode.find?_cons, hentry]
      rfl
    · cases h

/-- A path leads to another place, and so does that of the ignore file which a directory there would
have. -/
structure Avoids (t : FileTree) (place : List String) (p : Path) : Prop where
  itself : t.locate true p ≠ .ok place
  ignoreFile : t.locate true ((p.absolute t.cwd).child Walk.ignoreFile) ≠ .ok place

namespace Hides

variable (h : t.Hides t' place)

include h

theorem exists_directory {names : List String} {entries' : List (String × FileNode)}
    (hfind : FileNode.find? t'.root names = some (.directory entries')) :
    ∃ entries, FileNode.find? t.root names = some (.directory entries) ∧
      FileNode.withoutHidden entries' = FileNode.withoutHidden entries := by
  have hne : names ≠ place.reverse := by
    rintro rfl
    obtain ⟨content, hthere⟩ := h.there
    cases hthere.symm.trans (aloneAt_directory hfind)
  obtain ⟨entries, hentries⟩ :=
    exists_directory_of_aloneAt ((h.elsewhere names hne).symm.trans (aloneAt_directory hfind))
  exact ⟨entries, hentries, FileNode.withoutHidden_eq_of_find? h.shown hentries hfind⟩

/-- An entry of a directory is what it was, unless it is the file. -/
theorem entry_alone {start : List String} {entries entries' : List (String × FileNode)}
    {name : String} (hplace : FileNode.find? t.root start.reverse = some (.directory entries))
    (hplace' : FileNode.find? t'.root start.reverse = some (.directory entries'))
    (hne : name :: start ≠ place) :
    (FileNode.entry? entries' name).map FileNode.alone =
      (FileNode.entry? entries name).map FileNode.alone := by
  rw [← aloneAt_child hplace', ← aloneAt_child hplace]
  exact h.elsewhere _ fun heq => hne (List.reverse_injective heq)

/-- No path leads through a file, so all that lead elsewhere did so before. -/
theorem leads_back {links : Nat} {start todo found : List String}
    (hleads : Leads t'.root true links start todo found) (hne : found ≠ place) :
    Leads t.root true links start todo found := by
  induction hleads with
  | here links start => exact .here links start
  | stay hplace' hname _ ih =>
    obtain ⟨entries, hplace, -⟩ := h.exists_directory hplace'
    exact .stay hplace hname (ih hne)
  | up hplace' _ ih =>
    obtain ⟨entries, hplace, -⟩ := h.exists_directory hplace'
    exact .up hplace (ih hne)
  | missing hplace' hname hentry' =>
    obtain ⟨entries, hplace, -⟩ := h.exists_directory hplace'
    have hsame := h.entry_alone hplace hplace' hne
    rw [hentry', Option.map_none, eq_comm, Option.map_eq_none_iff] at hsame
    exact .missing hplace hname hsame
  | link _ _ _ hlast => cases hlast
  | follow hplace' hname hentry' hlast htarget _ ih =>
    obtain ⟨entries, hplace, -⟩ := h.exists_directory hplace'
    have hentry := (h.toExtends.entry_link_iff hplace hplace').mp hentry'
    exact .follow hplace hname hentry hlast htarget (ih hne)
  | @enter links start rest found name node entries' hplace' hname hentry' hlink hrest ih =>
    obtain ⟨entries, hplace, -⟩ := h.exists_directory hplace'
    have haround : name :: start ≠ place := by
      rintro rfl
      by_cases hlast : rest = []
      · subst hlast
        cases hrest
        exact hne rfl
      · obtain ⟨content, hthere⟩ := h.there
        cases hthere.symm.trans (hrest.start_directory hlast)
    have hsame := h.entry_alone hplace hplace' haround
    rw [hentry', Option.map_some] at hsame
    obtain ⟨old, hentry, halone⟩ := Option.map_eq_some_iff.mp hsame.symm
    refine .enter hplace hname hentry ?_ (ih hne)
    rintro target rfl
    cases node with
    | link target => exact hlink target rfl
    | file content | directory inner => cases halone

theorem locate_iff (hp : t'.locate true p ≠ .ok place) {found : List String} :
    t'.locate true p = .ok found ↔ t.locate true p = .ok found := by
  refine ⟨fun hlocate => ?_, h.toExtends.locate⟩
  have hne : found ≠ place := by
    rintro rfl
    exact hp hlocate
  rw [FileTree.locate, h.cwd] at hlocate
  exact walkTo_of_leads (h.leads_back (leads_of_walkTo hlocate) hne)

/-- What a path leads to that does not lead to the file: nothing, in both trees; or the same node,
which is no directory; or a directory that differs in hidden files at most. -/
theorem get_cases (hp : t'.locate true p ≠ .ok place) :
    (∃ e e', t.get p = .error e ∧ t'.get p = .error e') ∨
    (∃ node, t.get p = .ok node ∧ t'.get p = .ok node ∧ ∀ entries, node ≠ .directory entries) ∨
    ∃ entries entries', t.get p = .ok (.directory entries) ∧
      t'.get p = .ok (.directory entries') ∧
      FileNode.withoutHidden entries' = FileNode.withoutHidden entries := by
  cases hlocate : t.locate true p with
  | error e =>
    cases hlocate' : t'.locate true p with
    | ok found => cases hlocate.symm.trans ((h.locate_iff hp).mp hlocate')
    | error e' => exact .inl ⟨e, e', by rw [get, hlocate]; rfl, by rw [get, hlocate']; rfl⟩
  | ok found =>
    have hlocate' := h.toExtends.locate hlocate
    have hne : found.reverse ≠ place.reverse := by
      intro heq
      rw [List.reverse_injective heq] at hlocate'
      exact hp hlocate'
    have hsame := h.elsewhere _ hne
    rw [aloneAt, aloneAt] at hsame
    cases hfind' : FileNode.find? t'.root found.reverse with
    | none =>
      rw [hfind', Option.map_none, eq_comm, Option.map_eq_none_iff] at hsame
      exact .inl ⟨_, _, get_of_missing hlocate hsame, get_of_missing hlocate' hfind'⟩
    | some node' =>
      have hget' := get_of_find hlocate' hfind'
      rw [hfind', Option.map_some] at hsame
      obtain ⟨node, hfind, halone⟩ := Option.map_eq_some_iff.mp hsame.symm
      have hget := get_of_find hlocate hfind
      cases node' with
      | directory entries' =>
        obtain ⟨entries, hentries, hshown⟩ := h.exists_directory hfind'
        exact .inr (.inr ⟨entries, entries', get_of_find hlocate hentries, hget', hshown⟩)
      | file content | link target =>
        cases node <;> cases halone
        exact .inr (.inl ⟨_, hget, hget', fun _ hdirectory => by cases hdirectory⟩)

theorem isDirectory_eq (hp : t'.locate true p ≠ .ok place) :
    t'.isDirectory p = t.isDirectory p := by
  rcases h.get_cases hp with ⟨e, e', hget, hget'⟩ | ⟨node, hget, hget', -⟩ |
    ⟨entries, entries', hget, hget', -⟩
  · rw [isDirectory, isDirectory, entries?, entries?, hget, hget']
  · rw [isDirectory, isDirectory, entries?, entries?, hget, hget']
  · rw [isDirectory, isDirectory, entries?, entries?, hget, hget']
    rfl

theorem toOption_read_eq (hp : t'.locate true p ≠ .ok place) :
    (t'.read p).toOption = (t.read p).toOption := by
  rcases h.get_cases hp with ⟨e, e', hget, hget'⟩ | ⟨node, hget, hget', -⟩ |
    ⟨entries, entries', hget, hget', -⟩
  · rw [read, read, hget, hget']
    rfl
  · rw [read, read, hget, hget']
  · rw [read_of_directory hget, read_of_directory hget']

/-! ### What is collected -/

variable {o : WalkOptions} (ho : o.includeHidden = false)

theorem ignoreRules_eq (hp : t'.Avoids place p) : t'.ignoreRules o p = t.ignoreRules o p := by
  have hread := h.toOption_read_eq hp.ignoreFile
  rw [ignoreRules, ignoreRules, ← h.cwd]
  cases hcontent' : t'.read ((p.absolute t'.cwd).child Walk.ignoreFile) with
  | ok content =>
    rw [hcontent', eq_comm] at hread
    rw [Fallible.toOption_eq_some.mp hread]
  | error e' =>
    rw [hcontent'] at hread
    cases hcontent : t.read ((p.absolute t'.cwd).child Walk.ignoreFile) with
    | ok content =>
      rw [hcontent] at hread
      cases hread
    | error e => rfl

include ho

theorem filesAt_eq (hp : t'.Avoids place p) : t'.filesAt o p = t.filesAt o p := by
  rw [filesAt, filesAt]
  rcases h.get_cases hp.itself with ⟨e, e', hget, hget'⟩ | ⟨node, hget, hget', -⟩ |
    ⟨entries, entries', hget, hget', hshown⟩
  · rw [hget, hget']
  · rw [hget, hget', h.ignoreRules_eq hp]
  · have hwalk (ignores : List String → Except Ignore.Error Bool) :
        Walk.walk ⟨o.includeHidden, ignores⟩ entries' =
          Walk.walk ⟨o.includeHidden, ignores⟩ entries :=
      Walk.walk_eq_of_withoutHidden ho hshown
    simp only [hget, hget', h.ignoreRules_eq hp, hwalk]

theorem collect_eq {paths : List Path} (hpaths : ∀ p ∈ paths, t'.Avoids place p)
    (accepts : Path → Bool) : t'.collect o accepts paths = t.collect o accepts paths := by
  have hfiles : paths.mapM (t'.filesAt o) = paths.mapM (t.filesAt o) :=
    Fallible.mapM_congr fun p hp => h.filesAt_eq ho (hpaths p hp)
  have hone : t'.collectOne accepts = t.collectOne accepts := by
    funext found p
    rw [collectOne, collectOne, h.cwd]
  rw [collect, collect, foldlM_collect, foldlM_collect, hfiles, hone]

/-- A file that is collected holds what it held. -/
theorem read_eq_of_mem_filesAt (ht : t.Proper) (hordered : t.Ordered) (hp : t'.Avoids place p)
    {files : List Path} (hfiles : t.filesAt o p = .ok files) {q : Path} (hq : q ∈ files) :
    t'.read q = t.read q := by
  rcases mem_filesAt hfiles hq with ⟨rfl, node, hget, hnode⟩ |
    ⟨entries, rules, names, hget, -, hfinds, rfl⟩
  · rcases h.get_cases hp.itself with ⟨e, e', hget₀, -⟩ | ⟨node, hget₀, hget', -⟩ |
      ⟨entries, entries', hget₀, -, -⟩
    · cases hget.symm.trans hget₀
    · rw [read, read, hget₀, hget']
    · cases hget.symm.trans hget₀
      exact absurd rfl (hnode entries)
  · have hsight := Walk.inSight_of_finds ho (ordered_get hordered hget) hfinds
    obtain ⟨start, hlocate, hfind⟩ := locate_of_get hget
    have hlocated := locate_of_inSight ht hlocate hfind hsight
    obtain ⟨content, hfile⟩ := hsight.file
    have hread : t.read { p with parts := p.parts ++ names } = .ok content := by
      refine read_of_file (get_of_find hlocated ?_)
      rw [List.reverse_append, List.reverse_reverse, FileNode.find?_append, hfind,
        Option.bind_some, FileNode.under_directory, hfile]
    have hne : t'.locate true { p with parts := p.parts ++ names } ≠ .ok place := by
      rw [h.toExtends.locate hlocated]
      rintro ⟨⟩
      obtain ⟨outer, name, -, -, rfl, -⟩ := hfinds
      have hhidden := h.hidden name (by simp)
      have hshown := hsight.shown name (by simp)
      cases hhidden.symm.trans hshown
    have hoption := h.toOption_read_eq hne
    rw [hread] at hoption
    rw [hread, Fallible.toOption_eq_some.mp hoption]

theorem read_eq_of_mem_collect (ht : t.Proper) (hordered : t.Ordered) {paths : List Path}
    (hpaths : ∀ p ∈ paths, t'.Avoids place p) {accepts : Path → Bool} {files : List Path}
    (hfiles : t.collect o accepts paths = .ok files) {q : Path} (hq : q ∈ files) :
    t'.read q = t.read q := by
  obtain ⟨⟨p, hp, found, hfound, hmem⟩, -⟩ := (collects_of_collect hfiles).reached q hq
  exact h.read_eq_of_mem_filesAt ho ht hordered (hpaths p hp) hfound hmem

end Hides

end FileTree

end LineCensus
