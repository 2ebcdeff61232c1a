import LineCensus.Format.Table
import LineCensus.Proofs.Text.Decimal
import LineCensus.Text.Split
import Mathlib.Data.List.Basic

/-!
# The lines of a table

Every line of a table is a first column and cells of fixed widths behind it.  Numbers that fit into
their cells end where the cells end; the cells of the title are as wide as those of the rows, but
for the heading of the tokens, which is two characters wider than the numbers below.
-/

namespace LineCensus

namespace Text

/-! ## Cells behind a first column -/

def cells : List (Nat × String) → String
  | [] => ""
  | (width, text) :: rest => " " ++ padLeft width text ++ cells rest

def Fit (row : List (Nat × String)) : Prop :=
  ∀ cell ∈ row, cell.2.length ≤ cell.1

instance : DecidablePred Fit := fun row =>
  inferInstanceAs (Decidable (∀ cell ∈ row, cell.2.length ≤ cell.1))

/-- Where the texts end, if `start` characters are in front of the cells. -/
def ends (start : Nat) : List (Nat × String) → List (Nat × String)
  | [] => []
  | (width, text) :: rest => (start + 1 + width, text) :: ends (start + 1 + width) rest

/-- The word stands alone in the line, and so many characters are read up to its end. -/
def EndsAt (line : String) (column : Nat) (word : String) : Prop :=
  ∃ before after, line = before ++ " " ++ word ++ after ∧
    (before ++ " " ++ word).length = column ∧ (after = "" ∨ ∃ more, after = " " ++ more)

theorem fit_cons {width : Nat} {text : String} {rest : List (Nat × String)} :
    Fit ((width, text) :: rest) ↔ text.length ≤ width ∧ Fit rest :=
  List.forall_mem_cons

theorem length_cells {row : List (Nat × String)} (h : Fit row) :
    (cells row).length = (row.map fun cell => 1 + cell.1).sum := by
  induction row with
  | nil => rfl
  | cons cell rest ih =>
    obtain ⟨width, text⟩ := cell
    obtain ⟨hfit, hrest⟩ := fit_cons.mp h
    have hspace : (" " : String).length = 1 := rfl
    rw [cells, String.length_append, String.length_append, length_padLeft, ih hrest,
      max_eq_left hfit, hspace, List.map_cons, List.sum_cons]

theorem cells_eq_nil_or (row : List (Nat × String)) :
    cells row = "" ∨ ∃ more, cells row = " " ++ more := by
  cases row with
  | nil => exact .inl rfl
  | cons cell rest => exact .inr ⟨_, String.append_assoc⟩

theorem space_padLeft (width : Nat) (text : String) :
    " " ++ padLeft width text = line (width - text.length) ' ' ++ " " ++ text := by
  rw [← String.toList_inj]
  simp only [padLeft, line, String.toList_append, String.toList_ofList]
  show ' ' :: List.replicate _ ' ' ++ text.toList = _
  rw [← List.replicate_succ, List.replicate_succ']
  rfl

/-- Texts that fit end at the ends of their cells. -/
theorem endsAt_of_mem_ends {row : List (Nat × String)} (h : Fit row) {first word : String}
    {column : Nat} (hmem : (column, word) ∈ ends first.length row) :
    EndsAt (first ++ cells row) column word := by
  induction row generalizing first with
  | nil => cases hmem
  | cons cell rest ih =>
    obtain ⟨width, text⟩ := cell
    obtain ⟨hfit, hrest⟩ := fit_cons.mp h
    have hlength : (first ++ (" " ++ padLeft width text)).length = first.length + 1 + width := by
      have hspace : (" " : String).length = 1 := rfl
      rw [String.length_append, String.length_append, length_padLeft, max_eq_left hfit, hspace,
        Nat.add_assoc]
    have hline : first ++ cells ((width, text) :: rest) =
        first ++ (" " ++ padLeft width text) ++ cells rest :=
      String.append_assoc.symm
    rw [hline]
    rcases List.mem_cons.mp hmem with heq | hmem
    · obtain ⟨rfl, rfl⟩ := Prod.mk.inj heq
      have hword : first ++ (" " ++ padLeft width word) =
          first ++ line (width - word.length) ' ' ++ " " ++ word := by
        rw [space_padLeft, ← String.append_assoc, ← String.append_assoc]
      exact ⟨_, _, by rw [hword], by rw [← hword, hlength], cells_eq_nil_or rest⟩
    · rw [← hlength] at hmem
      exact ih hrest hmem

theorem not_mem_line {c other : Char} (h : c ≠ other) (n : Nat) : c ∉ (line n other).toList := by
  simp [line, h]

theorem not_mem_cells {c : Char} (hc : c ≠ ' ') {row : List (Nat × String)}
    (h : ∀ cell ∈ row, c ∉ cell.2.toList) : c ∉ (cells row).toList := by
  induction row with
  | nil => exact List.not_mem_nil
  | cons cell rest ih =>
    obtain ⟨htext, hrest⟩ := List.forall_mem_cons.mp h
    simp [cells, padLeft, line, hc, htext, ih hrest]

end Text

end LineCensus
