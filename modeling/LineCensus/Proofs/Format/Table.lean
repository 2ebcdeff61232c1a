import LineCensus.Proofs.Format.Columns
import Mathlib.Data.List.Forall2

/-!
# The table

The lines of a table are equally long, and its numbers end under their headings, as long as tokens
are left out.  With tokens the title and the separators are two characters longer than the rows.
-/

namespace LineCensus

/-- The numbers of a tally fit into their columns. -/
structure Tally.Fits (t : Tally) : Prop where
  files : 0 ≤ t.files ∧ t.files < 10 ^ 6
  blank : 0 ≤ t.blank ∧ t.blank < 10 ^ 14
  comment : 0 ≤ t.comment ∧ t.comment < 10 ^ 14
  code : 0 ≤ t.code ∧ t.code < 10 ^ 14
  tokens : 0 ≤ t.tokens ∧ t.tokens < 10 ^ 14

/-- All numbers fit into their columns, and the names of languages into theirs; neither names nor
paths are broken into lines. -/
structure Census.Fits (c : Census) : Prop where
  languages : ∀ l ∈ c.languages, l.name.length ≤ 27 ∧ '\n' ∉ l.name.toList ∧ l.tally.Fits
  files : ∀ r ∈ c.files, '\n' ∉ r.path.toList ∧ r.tally.Fits
  total : c.total.tally.Fits

namespace Format.Table

open Text (padLeft padRight cells Fit ends EndsAt)

structure Column where
  heading : String
  number : Tally → Int

def lineColumns : List Column :=
  [⟨"blank", (·.blank)⟩, ⟨"comment", (·.comment)⟩, ⟨"code", (·.code)⟩]

def filesColumn : Column :=
  ⟨"files", (·.files)⟩

/-- How much longer than a row the title is. -/
def overhang (layout : Layout) : Nat :=
  if layout.showTokens then 2 else 0

/-- A row of so many characters less the overhang, whose numbers end under their headings in the
title; the number of tokens ends where it would but for the overhang. -/
structure Aligned (layout : Layout) (title : String) (width : Nat) (columns : List Column)
    (t : Tally) (row : String) : Prop where
  length : row.length + overhang layout = width
  columns : ∀ column ∈ columns, ∃ k, EndsAt title k column.heading ∧
    EndsAt row k (toString (column.number t))
  tokens : layout.showTokens = true → ∃ k, EndsAt title (k + overhang layout) "tokens" ∧
    EndsAt row k (toString t.tokens)

/-- A text is a table: a title and rows between separators, with the sum of all below. -/
structure Lines (layout : Layout) (columns : List Column) (tallies : List Tally) (total : Tally)
    (text separator title footer : String) (rows : List String) : Prop where
  split_eq : Text.split '\n' text =
    [separator, title, separator] ++ rows ++ [separator, footer, separator, ""]
  length_title : title.length = separator.length
  aligned_rows : List.Forall₂ (Aligned layout title separator.length columns) tallies rows
  aligned_footer : Aligned layout title separator.length (filesColumn :: lineColumns) total footer
  length_eq_iff : (∀ line ∈ [separator, title, separator] ++ rows ++ [separator, footer, separator],
    line.length = separator.length) ↔ layout.showTokens = false

/-! ## Titles and rows as cells -/

def headingCells (layout : Layout) : List (Nat × String) :=
  (6, "files") :: (14, "blank") :: (14, "comment") :: (14, "code") ::
    if layout.showTokens then [(16, "tokens")] else []

def lineCellsOf (layout : Layout) (t : Tally) : List (Nat × String) :=
  (14, toString t.comment) :: (14, toString t.code) ::
    if layout.showTokens then [(14, toString t.tokens)] else []

def tallyCells (layout : Layout) (t : Tally) : List (Nat × String) :=
  (6, toString t.files) :: (14, toString t.blank) :: lineCellsOf layout t

def fileCells (layout : Layout) (t : Tally) : List (Nat × String) :=
  (21, toString t.blank) :: lineCellsOf layout t

theorem cells_lineCellsOf (layout : Layout) (t : Tally) :
    cells (lineCellsOf layout t) = " " ++ lineCells layout t := by
  obtain ⟨byFile, showTokens⟩ := layout
  cases showTokens <;> simp [lineCellsOf, lineCells, cells, cell, String.append_assoc]

theorem rowOfLanguage_eq (layout : Layout) (width : Nat) (name : String) (t : Tally) :
    rowOfLanguage layout width name t = padRight width name ++ cells (tallyCells layout t) := by
  simp [rowOfLanguage, tallyCells, cells, cells_lineCellsOf, cell, String.append_assoc]

theorem rowOfFile_eq (layout : Layout) (width : Nat) (r : FileEntry) :
    rowOfFile layout width r = padRight width r.path ++ cells (fileCells layout r.tally) := by
  simp [rowOfFile, fileCells, cells, cells_lineCellsOf, cell, String.append_assoc,
    FileEntry.tally]

theorem padRight_succ {width : Nat} {word : String} (h : word.length ≤ width) :
    padRight (width + 1) word = padRight width word ++ " " := by
  rw [padRight, padRight, Nat.sub_add_comm h, String.append_assoc, ← String.toList_inj]
  simp [Text.line, List.replicate_succ']

theorem space_header (layout : Layout) :
    " " ++ (" " ++ header layout) = cells (headingCells layout) := by
  obtain ⟨byFile, showTokens⟩ := layout
  cases byFile <;> cases showTokens <;> decide

theorem title_eq (layout : Layout) {width : Nat} {word : String} (h : word.length ≤ width) :
    padRight (width + 1) word ++ " " ++ header layout =
      padRight width word ++ cells (headingCells layout) := by
  rw [padRight_succ h, ← space_header, String.append_assoc, String.append_assoc]

/-! ## What fits -/

theorem length_padRight_eq {width : Nat} {text : String} (h : text.length ≤ width) :
    (padRight width text).length = width := by
  rw [Text.length_padRight, max_eq_left h]

theorem fit_headingCells (layout : Layout) : Fit (headingCells layout) := by
  obtain ⟨byFile, showTokens⟩ := layout
  cases byFile <;> cases showTokens <;> decide

theorem fit_lineCellsOf (layout : Layout) {t : Tally} (h : t.Fits) :
    Fit (lineCellsOf layout t) := by
  have hcomment := Text.length_toString_le (by omega) h.comment.1 h.comment.2
  have hcode := Text.length_toString_le (by omega) h.code.1 h.code.2
  have htokens := Text.length_toString_le (by omega) h.tokens.1 h.tokens.2
  rw [lineCellsOf, Text.fit_cons, Text.fit_cons]
  refine ⟨hcomment, hcode, ?_⟩
  split
  · exact Text.fit_cons.mpr ⟨htokens, List.forall_mem_nil _⟩
  · exact List.forall_mem_nil _

theorem fit_tallyCells (layout : Layout) {t : Tally} (h : t.Fits) : Fit (tallyCells layout t) := by
  have hfiles := Text.length_toString_le (by omega) h.files.1 h.files.2
  have hblank := Text.length_toString_le (by omega) h.blank.1 h.blank.2
  exact Text.fit_cons.mpr ⟨hfiles, Text.fit_cons.mpr ⟨hblank, fit_lineCellsOf layout h⟩⟩

theorem fit_fileCells (layout : Layout) {t : Tally} (h : t.Fits) : Fit (fileCells layout t) := by
  have hblank := Text.length_toString_le (by omega) h.blank.1 h.blank.2
  exact Text.fit_cons.mpr ⟨hblank.trans (by omega), fit_lineCellsOf layout h⟩

/-! ## Rows under a title -/

section Rows

variable (layout : Layout) {width : Nat} {word name : String} (hword : word.length ≤ width)
  (hname : name.length ≤ width) {t : Tally} (ht : t.Fits)

include hword hname

/-- A row whose cells end where those of the title do is aligned with it. -/
theorem aligned_of_ends {columns : List Column} {row : List (Nat × String)} (hfit : Fit row)
    (hsum : (row.map fun cell => 1 + cell.1).sum + overhang layout =
      ((headingCells layout).map fun cell => 1 + cell.1).sum)
    (hcolumns : ∀ column ∈ columns, ∃ k, (k, column.heading) ∈ ends width (headingCells layout) ∧
      (k, toString (column.number t)) ∈ ends width row)
    (htokens : layout.showTokens = true → ∃ k,
      (k + overhang layout, "tokens") ∈ ends width (headingCells layout) ∧
        (k, toString t.tokens) ∈ ends width row) :
    Aligned layout (padRight width word ++ cells (headingCells layout))
      (padRight width word ++ cells (headingCells layout)).length columns t
      (padRight width name ++ cells row) := by
  have htitle := length_padRight_eq hword
  have hrow := length_padRight_eq hname
  have hheading := fit_headingCells layout
  refine ⟨?_, fun column hcolumn => ?_, fun hshow => ?_⟩
  · rw [String.length_append, String.length_append, htitle, hrow, Text.length_cells hfit,
      Text.length_cells hheading, ← hsum, Nat.add_assoc]
  · obtain ⟨k, hk, hnumber⟩ := hcolumns column hcolumn
    exact ⟨k, Text.endsAt_of_mem_ends hheading (by rwa [htitle]),
      Text.endsAt_of_mem_ends hfit (by rwa [hrow])⟩
  · obtain ⟨k, hk, hnumber⟩ := htokens hshow
    exact ⟨k, Text.endsAt_of_mem_ends hheading (by rwa [htitle]),
      Text.endsAt_of_mem_ends hfit (by rwa [hrow])⟩

include ht

theorem aligned_tallyCells :
    Aligned layout (padRight width word ++ cells (headingCells layout))
      (padRight width word ++ cells (headingCells layout)).length (filesColumn :: lineColumns) t
      (padRight width name ++ cells (tallyCells layout t)) := by
  apply aligned_of_ends layout hword hname (fit_tallyCells layout ht)
  · obtain ⟨byFile, showTokens⟩ := layout
    cases showTokens <;> rfl
  · simp [filesColumn, lineColumns, ends, headingCells, tallyCells, lineCellsOf]
  · intro hshow
    simp [hshow, overhang, ends, headingCells, tallyCells, lineCellsOf]

theorem aligned_fileCells :
    Aligned layout (padRight width word ++ cells (headingCells layout))
      (padRight width word ++ cells (headingCells layout)).length lineColumns t
      (padRight width name ++ cells (fileCells layout t)) := by
  apply aligned_of_ends layout hword hname (fit_fileCells layout ht)
  · obtain ⟨byFile, showTokens⟩ := layout
    cases showTokens <;> rfl
  · simp [lineColumns, ends, headingCells, fileCells, lineCellsOf]
  · intro hshow
    simp [hshow, overhang, ends, headingCells, fileCells, lineCellsOf]

end Rows

/-! ## The lines -/

theorem not_mem_row {c : Char} (hc : c ≠ ' ') {width : Nat} {name : String}
    {row : List (Nat × String)} (hname : c ∉ name.toList)
    (hrow : ∀ cell ∈ row, c ∉ cell.2.toList) : c ∉ (padRight width name ++ cells row).toList := by
  rw [String.toList_append, List.mem_append, not_or, padRight, String.toList_append,
    List.mem_append, not_or]
  exact ⟨⟨hname, Text.not_mem_line hc _⟩, Text.not_mem_cells hc hrow⟩

theorem not_mem_tallyCells (layout : Layout) (t : Tally) :
    ∀ cell ∈ tallyCells layout t, '\n' ∉ cell.2.toList := by
  have hnumber := Text.not_mem_toString (c := '\n') rfl (by decide)
  rw [tallyCells, lineCellsOf]
  simp only [List.forall_mem_cons]
  refine ⟨hnumber _, hnumber _, hnumber _, hnumber _, ?_⟩
  split
  · exact List.forall_mem_cons.mpr ⟨hnumber _, List.forall_mem_nil _⟩
  · exact List.forall_mem_nil _

theorem not_mem_fileCells (layout : Layout) (t : Tally) :
    ∀ cell ∈ fileCells layout t, '\n' ∉ cell.2.toList := by
  have hcells := not_mem_tallyCells layout t
  rw [tallyCells, List.forall_mem_cons, List.forall_mem_cons] at hcells
  exact List.forall_mem_cons.mpr hcells.2

theorem not_mem_headingCells (layout : Layout) :
    ∀ cell ∈ headingCells layout, '\n' ∉ cell.2.toList := by
  obtain ⟨byFile, showTokens⟩ := layout
  cases byFile <;> cases showTokens <;> decide

theorem split_assemble {n : Nat} {title footer : String} {rows : List String}
    (htitle : '\n' ∉ title.toList) (hrows : ∀ row ∈ rows, '\n' ∉ row.toList)
    (hfooter : '\n' ∉ footer.toList) :
    Text.split '\n' (assemble n title rows footer) =
      [Text.line n '-', title, Text.line n '-'] ++ rows ++
        [Text.line n '-', footer, Text.line n '-', ""] := by
  have hseparator : '\n' ∉ (Text.line n '-').toList := Text.not_mem_line (by decide) n
  have hlines : ∀ line ∈ [Text.line n '-', title, Text.line n '-'] ++ rows ++
      [Text.line n '-', footer, Text.line n '-'], '\n' ∉ line.toList := by
    rw [List.forall_mem_append, List.forall_mem_append]
    exact ⟨⟨by simp [hseparator, htitle], hrows⟩, by simp [hseparator, hfooter]⟩
  have hsplit := Text.split_intercalate (by simp) hlines
  -- the line feed at the end leaves an empty part behind
  show Text.split '\n' (_ ++ String.singleton '\n') = _
  rw [Text.split_concat]
  exact (congrArg (· ++ [""]) hsplit).trans (by simp)

theorem length_of_aligned {layout : Layout} {title : String} {width : Nat} {columns : List Column}
    {tallies : List Tally} {rows : List String}
    (h : List.Forall₂ (Aligned layout title width columns) tallies rows) :
    ∀ row ∈ rows, row.length + overhang layout = width := by
  induction h with
  | nil => exact List.forall_mem_nil _
  | cons hrow _ ih => exact List.forall_mem_cons.mpr ⟨hrow.length, ih⟩

theorem overhang_eq_zero_iff {layout : Layout} :
    overhang layout = 0 ↔ layout.showTokens = false := by
  rw [overhang]
  cases layout.showTokens <;> simp

/-- The lines of a table are equally long unless rows are shorter than the title. -/
theorem lines_equal_iff {layout : Layout} {separator title footer : String} {rows : List String}
    (htitle : title.length = separator.length)
    (hrows : ∀ row ∈ rows, row.length + overhang layout = separator.length)
    (hfooter : footer.length + overhang layout = separator.length) :
    (∀ line ∈ [separator, title, separator] ++ rows ++ [separator, footer, separator],
      line.length = separator.length) ↔ layout.showTokens = false := by
  rw [← overhang_eq_zero_iff]
  constructor
  · intro hequal
    have hlast := hequal footer (by simp)
    omega
  · intro hzero
    rw [hzero] at hrows hfooter
    rw [List.forall_mem_append, List.forall_mem_append]
    exact ⟨⟨by simp [htitle], hrows⟩, by simp [← hfooter]⟩

theorem lines_of_aligned {layout : Layout} {title footer : String} {rows : List String}
    {columns : List Column} {tallies : List Tally} {total : Tally}
    (htitle : '\n' ∉ title.toList) (hrows : ∀ row ∈ rows, '\n' ∉ row.toList)
    (hfooter : '\n' ∉ footer.toList)
    (haligned : List.Forall₂ (Aligned layout title title.length columns) tallies rows)
    (hlast : Aligned layout title title.length (filesColumn :: lineColumns) total footer) :
    Lines layout columns tallies total (assemble title.length title rows footer)
      (Text.line title.length '-') title footer rows := by
  have hlength : title.length = (Text.line title.length '-').length :=
    (Text.length_line _ _).symm
  rw [hlength] at haligned hlast
  exact {
    split_eq := split_assemble htitle hrows hfooter
    length_title := hlength
    aligned_rows := haligned
    aligned_footer := hlast
    length_eq_iff := lines_equal_iff hlength (length_of_aligned haligned) hlast.length }

theorem le_foldl_path (files : List FileEntry) (width : Nat) :
    width ≤ files.foldl (fun w r => max w r.path.length) width ∧
      ∀ r ∈ files, r.path.length ≤ files.foldl (fun w r => max w r.path.length) width := by
  induction files generalizing width with
  | nil => exact ⟨Nat.le_refl width, List.forall_mem_nil _⟩
  | cons first rest ih =>
    obtain ⟨hstart, hrest⟩ := ih (max width first.path.length)
    exact ⟨(Nat.le_max_left _ _).trans hstart,
      List.forall_mem_cons.mpr ⟨(Nat.le_max_right _ _).trans hstart, hrest⟩⟩

theorem path_le_pathWidth {files : List FileEntry} {r : FileEntry} (hr : r ∈ files) :
    r.path.length ≤ pathWidth files := by
  cases files with
  | nil => cases hr
  | cons first rest =>
    obtain ⟨hstart, hrest⟩ := le_foldl_path rest first.path.length
    refine le_trans ?_ (Nat.le_max_left _ _)
    rcases List.mem_cons.mp hr with rfl | hr
    · exact hstart
    · exact hrest r hr

theorem total_le_pathWidth (files : List FileEntry) : totalName.length ≤ pathWidth files := by
  cases files <;> exact Nat.le_max_right _ _

/-! ## The report -/

theorem length_title (layout : Layout) {width : Nat} {word : String} (h : word.length ≤ width) :
    (padRight width word ++ cells (headingCells layout)).length =
      width + (header layout).length + 2 := by
  have hspace : (" " : String).length = 1 := rfl
  rw [← title_eq layout h, String.length_append, String.length_append, Text.length_padRight, hspace]
  omega

theorem render_byFile {layout : Layout} (hfile : layout.byFile = true) (c : Census) :
    render layout c =
      let width := pathWidth c.files
      let title := padRight width "File" ++ cells (headingCells layout)
      assemble title.length title
        (c.files.map fun r => padRight width r.path ++ cells (fileCells layout r.tally))
        (padRight width totalName ++ cells (tallyCells layout c.total.tally)) := by
  have hword : "File".length ≤ pathWidth c.files :=
    le_trans (by decide) (total_le_pathWidth c.files)
  have hrows : rowOfFile layout (pathWidth c.files) = fun r =>
      padRight (pathWidth c.files) r.path ++ cells (fileCells layout r.tally) :=
    funext (rowOfFile_eq layout _)
  simp only [render, if_pos hfile, title_eq layout hword, rowOfLanguage_eq, hrows,
    length_title layout hword]

theorem render_byLanguage {layout : Layout} (hfile : layout.byFile = false) (c : Census) :
    render layout c =
      let title := padRight nameWidth "Language" ++ cells (headingCells layout)
      assemble title.length title
        (c.languages.map fun l => padRight nameWidth l.name ++ cells (tallyCells layout l.tally))
        (padRight nameWidth totalName ++ cells (tallyCells layout c.total.tally)) := by
  have hword : "Language".length ≤ nameWidth := by decide
  have hlength : (if layout.showTokens then 96 else 79) =
      nameWidth + (header layout).length + 2 := by
    obtain ⟨byFile, showTokens⟩ := layout
    cases byFile <;> cases showTokens <;> decide
  have hnot : ¬layout.byFile = true := by simp [hfile]
  simp only [render, if_neg hnot, title_eq layout hword, rowOfLanguage_eq,
    length_title layout hword, hlength]

theorem lines_byFile (layout : Layout) (hfile : layout.byFile = true) {c : Census} (h : c.Fits) :
    ∃ separator title footer rows, Lines layout lineColumns (c.files.map (·.tally)) c.total.tally
      (render layout c) separator title footer rows := by
  have hword : "File".length ≤ pathWidth c.files :=
    le_trans (by decide) (total_le_pathWidth c.files)
  rw [render_byFile hfile]
  refine ⟨_, _, _, _, lines_of_aligned ?_ ?_ ?_ ?_ ?_⟩
  · exact not_mem_row (by decide) (by decide) (not_mem_headingCells layout)
  · rintro row hrow
    obtain ⟨r, hr, rfl⟩ := List.mem_map.mp hrow
    exact not_mem_row (by decide) (h.files r hr).1 (not_mem_fileCells layout r.tally)
  · exact not_mem_row (by decide) (by decide) (not_mem_tallyCells layout c.total.tally)
  · rw [List.forall₂_map_left_iff, List.forall₂_map_right_iff, List.forall₂_same]
    exact fun r hr => aligned_fileCells layout hword (path_le_pathWidth hr) (h.files r hr).2
  · exact aligned_tallyCells layout hword (total_le_pathWidth c.files) h.total

theorem lines_byLanguage (layout : Layout) (hfile : layout.byFile = false) {c : Census}
    (h : c.Fits) : ∃ separator title footer rows,
      Lines layout (filesColumn :: lineColumns) (c.languages.map (·.tally)) c.total.tally
        (render layout c) separator title footer rows := by
  have hword : "Language".length ≤ nameWidth := by decide
  rw [render_byLanguage hfile]
  refine ⟨_, _, _, _, lines_of_aligned ?_ ?_ ?_ ?_ ?_⟩
  · exact not_mem_row (by decide) (by decide) (not_mem_headingCells layout)
  · rintro row hrow
    obtain ⟨l, hl, rfl⟩ := List.mem_map.mp hrow
    exact not_mem_row (by decide) (h.languages l hl).2.1 (not_mem_tallyCells layout l.tally)
  · exact not_mem_row (by decide) (by decide) (not_mem_tallyCells layout c.total.tally)
  · rw [List.forall₂_map_left_iff, List.forall₂_map_right_iff, List.forall₂_same]
    exact fun l hl => aligned_tallyCells layout hword (h.languages l hl).1 (h.languages l hl).2.2
  · exact aligned_tallyCells layout hword (by decide) h.total

/-- A table is its title and rows between separators.  The title is as long as the separators, and
the numbers of the rows end under their headings; the rows are as long as the title, and the tokens
end under theirs, if and only if no tokens are shown. -/
theorem lines_render (layout : Layout) {c : Census} (h : c.Fits) :
    ∃ separator title footer rows,
      Lines layout (if layout.byFile then lineColumns else filesColumn :: lineColumns)
        (if layout.byFile then c.files.map (·.tally) else c.languages.map (·.tally))
        c.total.tally (render layout c) separator title footer rows := by
  cases hfile : layout.byFile with
  | true => exact lines_byFile layout hfile h
  | false => exact lines_byLanguage layout hfile h

def oneFile : Census where
  files := [⟨"a.py", "Python", 10, 2, 3, 40, none, none⟩]
  languages := [⟨"Python", ⟨1, 10, 2, 3, 40⟩⟩]
  total := ⟨totalName, ⟨1, 10, 2, 3, 40⟩⟩

theorem fits_oneFile : oneFile.Fits := by
  have ht : (⟨1, 10, 2, 3, 40⟩ : Tally).Fits := by constructor <;> decide
  exact ⟨List.forall_mem_singleton.mpr ⟨by decide, by decide, ht⟩,
    List.forall_mem_singleton.mpr ⟨by decide, ht⟩, ht⟩

theorem lines_render_oneFile : oneFile.Fits ∧ ∃ separator title row footer,
    Text.split '\n' (render { showTokens := true } oneFile) =
        [separator, title, separator, row, separator, footer, separator, ""] ∧
      title.length = separator.length ∧ row.length + 2 = separator.length ∧
      footer.length + 2 = separator.length := by
  obtain ⟨separator, title, footer, rows, hlines⟩ :=
    lines_render { showTokens := true } fits_oneFile
  obtain ⟨row, rfl, hrow⟩ : ∃ row, rows = [row] ∧ row.length + 2 = separator.length := by
    cases hlines.aligned_rows with
    | cons hrow hrest =>
      cases hrest
      exact ⟨_, rfl, hrow.length⟩
  exact ⟨fits_oneFile, separator, title, row, footer, hlines.split_eq, hlines.length_title,
    hrow, hlines.aligned_footer.length⟩

/-- With tokens the lines of the table have no common length. -/
theorem lines_differ : oneFile.Fits ∧
    ¬∃ n, ∀ line ∈ (Text.split '\n' (render { showTokens := true } oneFile)).dropLast,
      line.length = n := by
  refine ⟨fits_oneFile, ?_⟩
  rintro ⟨n, h⟩
  obtain ⟨separator, title, footer, rows, hlines⟩ :=
    lines_byLanguage { showTokens := true } rfl fits_oneFile
  have hlast : footer.length + 2 = separator.length := hlines.aligned_footer.length
  rw [hlines.split_eq, List.dropLast_append_of_ne_nil (List.cons_ne_nil _ _)] at h
  have hseparator := h separator (by simp)
  have hfooter := h footer (by simp)
  omega

end Format.Table

end LineCensus
