import Mathlib.Data.List.Basic
import Mathlib.Data.List.Infix

/-!
# Segments

A text cut at a delimiter of any length: at its leftmost occurrence, then at the leftmost one in
what comes after that, and so on.  Occurrences that overlap one another are not all taken.
-/

namespace LineCensus.Text

/-- What stands between the occurrences of a delimiter, after the first `skip` characters have been
left out, which belong to one. -/
def segmentsFrom (delimiter : List Char) (skip : Nat) : List Char → List (List Char)
  | [] => [[]]
  | c :: rest =>
    match skip with
    | skip + 1 => segmentsFrom delimiter skip rest
    | 0 =>
      if delimiter.isPrefixOf (c :: rest) then
        [] :: segmentsFrom delimiter (delimiter.length - 1) rest
      else (segmentsFrom delimiter 0 rest).modifyHead (c :: ·)

def segments (delimiter text : List Char) : List (List Char) :=
  segmentsFrom delimiter 0 text

/-- The text is cut at the leftmost occurrence of the delimiter, and what comes after it is cut
likewise. -/
inductive Cuts (delimiter : List Char) : List Char → List (List Char) → Prop
  | last {text : List Char} (hnone : ¬delimiter <:+: text) : Cuts delimiter text [text]
  | next {before after : List Char} {parts : List (List Char)}
      (hleftmost : ∀ earlier, earlier ++ delimiter <+: before ++ delimiter ++ after →
        before.length ≤ earlier.length)
      (hafter : Cuts delimiter after parts) :
      Cuts delimiter (before ++ delimiter ++ after) (before :: parts)

variable {delimiter : List Char}

@[simp] theorem segments_nil : segments delimiter [] = [[]] := rfl

theorem segmentsFrom_eq_drop (skip : Nat) (text : List Char) :
    segmentsFrom delimiter skip text = segments delimiter (text.drop skip) := by
  induction text generalizing skip with
  | nil => simp [segmentsFrom]
  | cons c rest ih =>
    cases skip with
    | zero => rfl
    | succ skip => rw [segmentsFrom, ih, List.drop_succ_cons]

theorem segments_append (hne : delimiter ≠ []) (rest : List Char) :
    segments delimiter (delimiter ++ rest) = [] :: segments delimiter rest := by
  obtain ⟨c, more, rfl⟩ := List.exists_cons_of_ne_nil hne
  have hprefix : (c :: more).isPrefixOf (c :: (more ++ rest)) = true :=
    List.isPrefixOf_iff_prefix.mpr (List.prefix_append (c :: more) rest)
  rw [List.cons_append, segments, segmentsFrom, if_pos hprefix, segmentsFrom_eq_drop]
  simp

theorem segments_cons {c : Char} {rest : List Char} (hnot : ¬delimiter <+: c :: rest) :
    segments delimiter (c :: rest) = (segments delimiter rest).modifyHead (c :: ·) := by
  rw [segments, segmentsFrom, if_neg (by rwa [List.isPrefixOf_iff_prefix])]
  rfl

/-- Either the delimiter stands in front of a text, or the first character belongs to a segment. -/
@[elab_as_elim]
theorem segments_induction (hne : delimiter ≠ []) {motive : List Char → Prop} (nil : motive [])
    (occurs : ∀ rest, motive rest → motive (delimiter ++ rest))
    (passes : ∀ c rest, ¬delimiter <+: c :: rest → motive rest → motive (c :: rest))
    (text : List Char) : motive text := by
  match text with
  | [] => exact nil
  | c :: rest =>
    by_cases hprefix : delimiter <+: c :: rest
    · obtain ⟨after, hafter⟩ := hprefix
      have hshorter : after.length < (c :: rest).length := by
        rw [← hafter, List.length_append]
        have hpos := List.length_pos_iff.mpr hne
        omega
      rw [← hafter]
      exact occurs after (segments_induction hne nil occurs passes after)
    · exact passes c rest hprefix (segments_induction hne nil occurs passes rest)
termination_by text.length
decreasing_by
  · exact hshorter
  · exact Nat.lt_succ_self rest.length

theorem exists_segments_eq (hne : delimiter ≠ []) (text : List Char) :
    ∃ part parts, segments delimiter text = part :: parts := by
  induction text using segments_induction hne with
  | nil => exact ⟨[], [], rfl⟩
  | occurs rest ih => exact ⟨_, _, segments_append hne rest⟩
  | passes c rest hnot ih =>
    obtain ⟨part, parts, hparts⟩ := ih
    exact ⟨c :: part, parts, by rw [segments_cons hnot, hparts, List.modifyHead_cons]⟩

theorem Cuts.cons {c : Char} {rest part : List Char} {parts : List (List Char)}
    (hnot : ¬delimiter <+: c :: rest) (h : Cuts delimiter rest (part :: parts)) :
    Cuts delimiter (c :: rest) ((c :: part) :: parts) := by
  cases h with
  | last hnone =>
    refine .last ?_
    rw [List.infix_cons_iff]
    exact not_or.mpr ⟨hnot, hnone⟩
  | @next _ after _ hleftmost hafter =>
    rw [← List.cons_append, ← List.cons_append] at hnot ⊢
    refine .next ?_ hafter
    intro earlier hearlier
    cases earlier with
    | nil => exact absurd hearlier hnot
    | cons first earlier =>
      rw [List.cons_append, List.cons_append, List.cons_append] at hearlier
      have hshorter := hleftmost earlier (List.cons_prefix_cons.mp hearlier).2
      rw [List.length_cons, List.length_cons]
      omega

theorem cuts_segments (hne : delimiter ≠ []) (text : List Char) :
    Cuts delimiter text (segments delimiter text) := by
  induction text using segments_induction hne with
  | nil => exact .last (by simpa using hne)
  | occurs rest ih =>
    rw [segments_append hne]
    have hcuts : Cuts delimiter ([] ++ delimiter ++ rest) ([] :: segments delimiter rest) :=
      .next (fun _ _ => Nat.zero_le _) ih
    exact hcuts
  | passes c rest hnot ih =>
    obtain ⟨part, parts, hparts⟩ := exists_segments_eq hne rest
    rw [segments_cons hnot, hparts, List.modifyHead_cons]
    exact .cons hnot (hparts ▸ ih)

end LineCensus.Text
