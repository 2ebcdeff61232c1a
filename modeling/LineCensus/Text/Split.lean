/-!
# Splitting a text

A text cut at a separator, so that joining the parts with the separator gives the text back.
-/

namespace LineCensus.Text

/-- The parts of a text between separators; there is always at least one. -/
def splitAt (separator : Char) (s : List Char) : List (List Char) :=
  s.foldr (fun c parts =>
    match parts with
    | part :: rest => if c = separator then [] :: part :: rest else (c :: part) :: rest
    | [] => [[c]]) [[]]

def split (separator : Char) (s : String) : List String :=
  (splitAt separator s.toList).map String.ofList

theorem splitAt_ne_nil (separator : Char) (s : List Char) : splitAt separator s ≠ [] := by
  cases s with
  | nil => simp [splitAt]
  | cons c rest =>
    simp only [splitAt, List.foldr_cons]
    split
    · split <;> simp
    · simp

theorem splitAt_eq_splitOn (separator : Char) (s : List Char) :
    splitAt separator s = s.splitOn separator := by
  induction s with
  | nil => rfl
  | cons c rest ih =>
    have hne := splitAt_ne_nil separator rest
    rw [splitAt, List.foldr_cons, ← splitAt, List.splitOn_cons_eq_if_modifyHead, ← ih]
    cases hparts : splitAt separator rest with
    | nil => exact absurd hparts hne
    | cons part more => by_cases hc : c = separator <;> simp [hc]

theorem splitAt_append_cons {separator : Char} {part : List Char} (h : separator ∉ part)
    (rest : List Char) :
    splitAt separator (part ++ separator :: rest) = part :: splitAt separator rest := by
  rw [splitAt_eq_splitOn, splitAt_eq_splitOn, List.splitOn_append_cons_self_of_not_mem h]

/-- Nothing is left behind a separator at the end. -/
theorem split_concat (separator : Char) (s : String) :
    split separator (s ++ String.singleton separator) = split separator s ++ [""] := by
  rw [split, split, String.toList_append, String.toList_singleton, splitAt_eq_splitOn,
    splitAt_eq_splitOn, List.splitOn_append_cons_self, List.splitOn_nil, List.map_append]
  rfl

/-- A text put together with a separator is cut into the parts again. -/
theorem split_intercalate {separator : Char} {parts : List String} (hne : parts ≠ [])
    (h : ∀ part ∈ parts, separator ∉ part.toList) :
    split separator ((String.singleton separator).intercalate parts) = parts := by
  have hchars : ∀ chars ∈ parts.map String.toList, separator ∉ chars := by
    intro chars hchars
    obtain ⟨part, hpart, rfl⟩ := List.mem_map.mp hchars
    exact h part hpart
  have hsplit := List.splitOn_intercalate separator hchars (by simpa using hne)
  rw [split, splitAt_eq_splitOn, String.toList_intercalate, String.toList_singleton, hsplit,
    List.map_map]
  simp [Function.comp_def]

/-- A text put together with a separator, and with one at its end, is the parts with one each. -/
theorem toList_intercalate_append {separator : String} {parts : List String} (hne : parts ≠ []) :
    (separator.intercalate parts ++ separator).toList =
      parts.flatMap fun part => part.toList ++ separator.toList := by
  induction parts with
  | nil => exact absurd rfl hne
  | cons part rest ih =>
    cases rest with
    | nil => simp
    | cons second more =>
      rw [List.flatMap_cons, ← ih (List.cons_ne_nil _ _), String.intercalate_cons_cons]
      simp only [String.toList_append, List.append_assoc]

theorem not_mem_of_mem_splitAt {separator : Char} {s part : List Char}
    (h : part ∈ splitAt separator s) : separator ∉ part := by
  rw [splitAt_eq_splitOn] at h
  induction s generalizing part with
  | nil =>
    rw [List.splitOn_nil, List.mem_singleton] at h
    simp [h]
  | cons c rest ih =>
    rw [List.splitOn_cons_eq_if_modifyHead] at h
    cases hparts : rest.splitOn separator with
    | nil => exact absurd hparts (List.splitOn_ne_nil separator rest)
    | cons first more =>
      rw [hparts] at h ih
      by_cases hc : c = separator
      · rw [if_pos (beq_iff_eq.mpr hc), List.mem_cons] at h
        rcases h with rfl | h
        · exact List.not_mem_nil
        · exact ih h
      · rw [if_neg (by simpa using hc), List.modifyHead_cons, List.mem_cons] at h
        rcases h with rfl | h
        · rw [List.mem_cons, not_or]
          exact ⟨Ne.symm hc, ih List.mem_cons_self⟩
        · exact ih (List.mem_cons_of_mem first h)

end LineCensus.Text
