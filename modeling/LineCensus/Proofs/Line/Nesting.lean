import LineCensus.Proofs.Line.Verdict
import Mathlib.Data.List.Nodup
import Mathlib.Data.List.Pairwise

/-!
# Nested comments

Where no delimiter is the start of another, a text of properly nested comments is scanned as it
was written: every delimiter is taken for what it is, and the comments that were open before are
the ones that are open after it.
-/

namespace LineCensus.Line

def delimiterTexts (blocks : List Delimiters) : List (List Char) :=
  blocks.flatMap fun pair => [pair.opener, pair.closer]

/-- There are pairs, no delimiter is empty, none is used twice, not even as the two ends of one
pair, and none is the start of another. -/
structure Unambiguous (blocks : List Delimiters) : Prop where
  blocks_ne_nil : blocks ≠ []
  opener_ne_nil : ∀ pair ∈ blocks, pair.opener ≠ []
  closer_ne_nil : ∀ pair ∈ blocks, pair.closer ≠ []
  nodup : (delimiterTexts blocks).Nodup
  eq_of_prefix : ∀ a ∈ delimiterTexts blocks, ∀ b ∈ delimiterTexts blocks, a <+: b → a = b

/-- A text in which comments are properly nested, beside the characters of it that stand outside
of them.  No character between delimiters is the first one of a delimiter. -/
inductive Nested (blocks : List Delimiters) : List Char → List Char → Prop
  | nil : Nested blocks [] []
  | filler {c : Char} {text outside : List Char}
      (hc : ∀ delimiter ∈ delimiterTexts blocks, delimiter.head? ≠ some c)
      (htext : Nested blocks text outside) : Nested blocks (c :: text) (c :: outside)
  | comment (pair : Delimiters) {inside hidden text outside : List Char}
      (hpair : pair ∈ blocks) (hinside : Nested blocks inside hidden)
      (htext : Nested blocks text outside) :
      Nested blocks (pair.opener ++ inside ++ pair.closer ++ text) outside

theorem opener_mem_delimiterTexts {blocks : List Delimiters} {pair : Delimiters}
    (h : pair ∈ blocks) : pair.opener ∈ delimiterTexts blocks :=
  List.mem_flatMap.mpr ⟨pair, h, by simp⟩

theorem closer_mem_delimiterTexts {blocks : List Delimiters} {pair : Delimiters}
    (h : pair ∈ blocks) : pair.closer ∈ delimiterTexts blocks :=
  List.mem_flatMap.mpr ⟨pair, h, by simp⟩

/-- Where no delimiter is the start of another, two that stand at the same place are the same. -/
theorem delimiter_eq_of_prefixes {blocks : List Delimiters}
    (h : ∀ a ∈ delimiterTexts blocks, ∀ b ∈ delimiterTexts blocks, a <+: b → a = b)
    {a b text : List Char} (ha : a ∈ delimiterTexts blocks) (hb : b ∈ delimiterTexts blocks)
    (hat : a <+: text) (hbt : b <+: text) : a = b := by
  rcases List.prefix_or_prefix_of_prefix hat hbt with hab | hba
  · exact h a ha b hb hab
  · exact (h b hb a ha hba).symm

namespace Unambiguous

variable {blocks : List Delimiters}

theorem disjoint_of_ne (h : Unambiguous blocks) {pair other : Delimiters}
    (hpair : pair ∈ blocks) (hother : other ∈ blocks) (hne : pair ≠ other) :
    List.Disjoint [pair.opener, pair.closer] [other.opener, other.closer] := by
  have hsymm : Std.Symm (Function.onFun List.Disjoint
      fun pair : Delimiters => [pair.opener, pair.closer]) :=
    ⟨fun _ _ hab => List.disjoint_symm hab⟩
  exact (List.nodup_flatMap.mp h.nodup).2.forall hpair hother hne

theorem opener_inj (h : Unambiguous blocks) {pair other : Delimiters} (hpair : pair ∈ blocks)
    (hother : other ∈ blocks) (hsame : pair.opener = other.opener) : pair = other := by
  by_contra hne
  exact h.disjoint_of_ne hpair hother hne (a := pair.opener) (by simp) (by simp [hsame])

theorem opener_ne_closer (h : Unambiguous blocks) {pair other : Delimiters}
    (hpair : pair ∈ blocks) (hother : other ∈ blocks) : pair.opener ≠ other.closer := by
  intro hsame
  by_cases heq : pair = other
  · subst heq
    simpa [hsame] using (List.nodup_flatMap.mp h.nodup).1 pair hpair
  · exact h.disjoint_of_ne hpair hother heq (a := pair.opener) (by simp) (by simp [hsame])

theorem eq_of_canOpen (h : Unambiguous blocks) {pair other : Delimiters} {depth : Depth}
    {text : List Char} (hpair : pair ∈ blocks) (hother : other ∈ blocks)
    (hopen : canOpen depth (pair.opener ++ text) other = true) : other = pair := by
  obtain ⟨-, hprefix, -⟩ := canOpen_iff.mp hopen
  apply h.opener_inj hother hpair
  exact delimiter_eq_of_prefixes h.eq_of_prefix (opener_mem_delimiterTexts hother)
    (opener_mem_delimiterTexts hpair) hprefix (List.prefix_append _ _)

theorem canClose_opener (h : Unambiguous blocks) {pair other : Delimiters} {text : List Char}
    (hpair : pair ∈ blocks) (hother : other ∈ blocks) :
    canClose (pair.opener ++ text) other = false := by
  rw [Bool.eq_false_iff]
  intro hclose
  obtain ⟨-, hprefix⟩ := canClose_iff.mp hclose
  apply h.opener_ne_closer hpair hother
  exact delimiter_eq_of_prefixes h.eq_of_prefix (opener_mem_delimiterTexts hpair)
    (closer_mem_delimiterTexts hother) (List.prefix_append _ _) hprefix

theorem canOpen_closer (h : Unambiguous blocks) {pair other : Delimiters} {depth : Depth}
    {text : List Char} (hpair : pair ∈ blocks) (hother : other ∈ blocks) :
    canOpen depth (pair.closer ++ text) other = false := by
  rw [Bool.eq_false_iff]
  intro hopen
  obtain ⟨-, hprefix, -⟩ := canOpen_iff.mp hopen
  apply h.opener_ne_closer hother hpair
  exact delimiter_eq_of_prefixes h.eq_of_prefix (opener_mem_delimiterTexts hother)
    (closer_mem_delimiterTexts hpair) hprefix (List.prefix_append _ _)

/-! ## The scan of one delimiter and of one character -/

theorem scan_opener (h : Unambiguous blocks) {depth : Depth}
    (hdepth : ∀ pair ∈ depth, pair ∈ blocks) {pair : Delimiters} (hpair : pair ∈ blocks)
    (text : List Char) :
    scan blocks depth (pair.opener ++ text) = scan blocks (pair :: depth) text := by
  have hopen : canOpen depth (pair.opener ++ text) pair = true := by
    refine canOpen_iff.mpr ⟨h.opener_ne_nil pair hpair, List.prefix_append _ _, ?_⟩
    exact fun hsame => absurd hsame (h.opener_ne_closer hpair hpair)
  apply scan_of_opens hpair hopen
  apply turnAt_eq_opens hpair hopen
  · intro other hother
    exact h.eq_of_canOpen hpair hother
  · intro innermost hhead
    exact h.canClose_opener hpair (hdepth innermost (List.mem_of_head? hhead))

theorem scan_closer (h : Unambiguous blocks) {pair : Delimiters} (hpair : pair ∈ blocks)
    (depth : Depth) (text : List Char) :
    scan blocks (pair :: depth) (pair.closer ++ text) = scan blocks depth text := by
  apply scan_of_closes h.blocks_ne_nil (h.closer_ne_nil pair hpair)
  apply turnAt_eq_closes h.blocks_ne_nil
  · intro first hhead
    exact h.canOpen_closer hpair (List.mem_of_head? hhead)
  · exact canClose_iff.mpr ⟨h.closer_ne_nil pair hpair, List.prefix_append _ _⟩

theorem scan_filler (h : Unambiguous blocks) {depth : Depth}
    (hdepth : ∀ pair ∈ depth, pair ∈ blocks) {c : Char}
    (hc : ∀ delimiter ∈ delimiterTexts blocks, delimiter.head? ≠ some c) (text : List Char) :
    scan blocks depth (c :: text) =
      ((scan blocks depth text).1,
        (depth.isEmpty && !Text.isBlank c) || (scan blocks depth text).2) := by
  have hnone : ∀ delimiter ∈ delimiterTexts blocks, delimiter ≠ [] →
      ¬delimiter <+: c :: text := by
    intro delimiter hmem hne hprefix
    obtain ⟨c', rest, rfl⟩ := List.exists_cons_of_ne_nil hne
    have hhead := (List.cons_prefix_cons.mp hprefix).1
    exact hc _ hmem (by simp [hhead])
  have hopen : ∀ pair ∈ blocks, canOpen depth (c :: text) pair = false := by
    intro pair hpair
    rw [Bool.eq_false_iff]
    intro hopen
    obtain ⟨hne, hprefix, -⟩ := canOpen_iff.mp hopen
    exact hnone _ (opener_mem_delimiterTexts hpair) hne hprefix
  apply scan_of_passes h.blocks_ne_nil hopen
  apply turnAt_eq_passes hopen
  intro innermost hhead
  have hmem := hdepth innermost (List.mem_of_head? hhead)
  rw [Bool.eq_false_iff]
  intro hclose
  obtain ⟨hne, hprefix⟩ := canClose_iff.mp hclose
  exact hnone _ (closer_mem_delimiterTexts hmem) hne hprefix

/-- A nested text leaves the open comments as they are, and what follows it is scanned as if it
stood alone. -/
theorem scan_append (h : Unambiguous blocks) {text outside : List Char}
    (hnested : Nested blocks text outside) {depth : Depth}
    (hdepth : ∀ pair ∈ depth, pair ∈ blocks) (rest : List Char) :
    scan blocks depth (text ++ rest) =
      ((scan blocks depth rest).1,
        (depth.isEmpty && outside.any (!Text.isBlank ·)) || (scan blocks depth rest).2) := by
  induction hnested generalizing depth rest with
  | nil => simp
  | filler hc _ ih =>
    rw [List.cons_append, h.scan_filler hdepth hc, ih hdepth]
    simp [Bool.and_or_distrib_left, Bool.or_assoc]
  | @comment pair inside _ text _ hpair _ _ ihinside ih =>
    have hinner : ∀ other ∈ pair :: depth, other ∈ blocks := by
      simpa [hpair] using hdepth
    calc
      scan blocks depth (pair.opener ++ inside ++ pair.closer ++ text ++ rest)
        = scan blocks depth (pair.opener ++ (inside ++ (pair.closer ++ (text ++ rest)))) := by
          simp only [List.append_assoc]
      _ = scan blocks (pair :: depth) (inside ++ (pair.closer ++ (text ++ rest))) :=
          h.scan_opener hdepth hpair _
      _ = scan blocks (pair :: depth) (pair.closer ++ (text ++ rest)) := by
          rw [ihinside hinner]
          simp
      _ = scan blocks depth (text ++ rest) := h.scan_closer hpair depth _
      _ = _ := ih hdepth rest

end Unambiguous

/-- A nested text ends with the comments open that were open before it, however many these are,
and is code exactly if none was and something outside of its comments is visible.  The comments
open before it are of the same grammar, as they are in every session. -/
theorem scan_nested {g : Grammar} (h : Unambiguous g.blocks) {text outside : List Char}
    (hnested : Nested g.blocks text outside) (depth : Depth)
    (hdepth : ∀ pair ∈ depth, pair ∈ g.blocks) :
    (scan g.blocks depth text).1 = depth ∧
      ((scan g.blocks depth text).2 = true ↔
        depth = [] ∧ ∃ c ∈ outside, Text.isBlank c = false) := by
  have hscan := h.scan_append hnested hdepth []
  rw [List.append_nil, scan_nil h.blocks_ne_nil] at hscan
  rw [hscan]
  simp

/-- A comment within a comment of another pair, in a text that starts inside of a third. -/
theorem scan_nested_mixed :
    let g : Grammar :=
      { name := "A", blocks := [⟨['/', '*'], ['*', '/']⟩, ⟨['<', '!'], ['-', '>']⟩] }
    let text := ['x', '/', '*', 'y', '<', '!', 'z', '-', '>', '*', '/', ' ']
    Unambiguous g.blocks ∧ Nested g.blocks text ['x', ' '] ∧
      (scan g.blocks [⟨['<', '!'], ['-', '>']⟩] text).1 = [⟨['<', '!'], ['-', '>']⟩] ∧
      (scan g.blocks [⟨['<', '!'], ['-', '>']⟩] text).2 = false ∧
      (scan g.blocks [] text).2 = true := by
  intro g text
  have h : Unambiguous g.blocks := ⟨by decide, by decide, by decide, by decide, by decide⟩
  have hinner : Nested g.blocks ['z'] ['z'] := .filler (by decide) .nil
  have houter : Nested g.blocks ['y', '<', '!', 'z', '-', '>'] ['y'] :=
    .filler (by decide) (.comment ⟨['<', '!'], ['-', '>']⟩ (by decide) hinner .nil)
  have hnested : Nested g.blocks text ['x', ' '] :=
    .filler (by decide) (.comment ⟨['/', '*'], ['*', '/']⟩ (by decide) houter
      (.filler (by decide) .nil))
  have hinside := scan_nested h hnested [⟨['<', '!'], ['-', '>']⟩] (by decide)
  refine ⟨h, hnested, hinside.1, ?_, ?_⟩
  · rw [Bool.eq_false_iff]
    exact fun hcode => absurd (hinside.2.mp hcode).1 (by simp)
  · exact (scan_nested h hnested [] (by decide)).2.mpr ⟨rfl, 'x', by simp, by decide⟩

end LineCensus.Line
