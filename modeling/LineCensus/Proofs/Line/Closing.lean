import LineCensus.Proofs.Line.Session

/-!
# Closing a comment

An open comment ends only where its closer stands.  A line that holds nothing but the closer of
the innermost comment ends it, unless the first pair of the grammar takes the start of the closer
for an opener: the first pair is tried before the open comment.  A comment whose closer is empty
never ends.
-/

namespace LineCensus.Line

/-- A turn leaves a comment open, with all around it, unless it is the innermost one and its closer
stands there. -/
theorem suffix_after_turnAt {blocks : List Delimiters} {pair : Delimiters} {outer depth : Depth}
    {text : List Char} (hcloser : pair.closer = [] ∨ ¬pair.closer <+: text)
    (h : pair :: outer <:+ depth) : pair :: outer <:+ (turnAt blocks depth text).after depth := by
  rcases turnAt_cases blocks depth text with
    ⟨opened, -, -, hturn⟩ | ⟨innermost, outer', rfl, hclose, hturn⟩ | hturn
  · rw [hturn]
    exact h.trans (List.suffix_cons opened depth)
  · rw [hturn]
    rcases List.suffix_cons_iff.mp h with hsame | hsuffix
    · cases hsame
      obtain ⟨hne, hprefix⟩ := canClose_iff.mp hclose
      exact absurd hcloser (by simp [hne, hprefix])
    · exact hsuffix
  · rwa [hturn]

theorem suffix_fst_scan {blocks : List Delimiters} {pair : Delimiters} {outer depth : Depth}
    {text : List Char} (hcloser : pair.closer = [] ∨ ¬pair.closer <:+: text)
    (h : pair :: outer <:+ depth) : pair :: outer <:+ (scan blocks depth text).1 := by
  induction depth, text using turn_induction blocks with
  | done depth => exact h
  | turn depth c rest ih =>
    have hhere : pair.closer = [] ∨ ¬pair.closer <+: c :: rest :=
      hcloser.imp_right fun hnot hprefix => hnot hprefix.isInfix
    have hlater : ∀ n, pair.closer = [] ∨ ¬pair.closer <:+: rest.drop n := by
      intro n
      refine hcloser.imp_right fun hnot hwithin => hnot ?_
      exact (hwithin.trans (List.drop_suffix n rest).isInfix).trans
        (List.suffix_cons c rest).isInfix
    rw [fst_scan_cons]
    exact ih (hlater _) (suffix_after_turnAt hhere h)

/-- The closer of the innermost comment closes it exactly if the first pair does not open
there. -/
theorem fst_scan_closer_iff {first pair : Delimiters} {more : List Delimiters} {outer : Depth}
    (hne : pair.closer ≠ []) :
    (scan (first :: more) (pair :: outer) pair.closer).1 = outer ↔
      canOpen (pair :: outer) pair.closer first = false := by
  obtain ⟨c, rest, hcloser⟩ := List.exists_cons_of_ne_nil hne
  rw [hcloser, fst_scan_cons, ← hcloser]
  constructor
  · intro hscan
    rw [Bool.eq_false_iff]
    intro hopen
    have hturn : turnAt (first :: more) (pair :: outer) pair.closer = .opens first := by
      simp [turnAt, hopen]
    have hshort : ∀ n, ¬pair.closer <:+: rest.drop n := by
      intro n hwithin
      have hlength := hwithin.length_le
      rw [hcloser, List.length_drop, List.length_cons] at hlength
      omega
    rw [hturn] at hscan
    simp only [Turn.after, Turn.extra] at hscan
    have hkept : pair :: outer <:+
        (scan (first :: more) (first :: pair :: outer) (rest.drop (first.opener.length - 1))).1 :=
      suffix_fst_scan (.inr (hshort _)) (List.suffix_cons first (pair :: outer))
    have hlength := hkept.length_le
    rw [hscan, List.length_cons] at hlength
    omega
  · intro hopen
    have hturn : turnAt (first :: more) (pair :: outer) pair.closer = .closes pair := by
      refine turnAt_eq_closes (by simp) ?_ (canClose_iff.mpr ⟨hne, List.prefix_refl _⟩)
      rintro _ ⟨⟩
      exact hopen
    have hrest : rest.drop (pair.closer.length - 1) = [] := by
      rw [List.drop_eq_nil_iff, hcloser]
      simp
    rw [hturn]
    simp only [Turn.after, Turn.extra, hrest, List.tail_cons]
    rfl

/-! ## Comments without a closer -/

section Unclosable

variable {pair : Delimiters} {outer : Depth} (hcloser : pair.closer = [])

include hcloser

/-- While a comment without a closer is open, nothing is seen outside of comments. -/
theorem snd_scan_of_no_closer {blocks : List Delimiters} (hne : blocks ≠ []) {depth : Depth}
    (h : pair :: outer <:+ depth) (text : List Char) : (scan blocks depth text).2 = false := by
  induction depth, text using turn_induction blocks with
  | done depth => rw [scan_nil hne]
  | turn depth c rest ih =>
    have hdepth : depth ≠ [] := List.ne_nil_of_mem (h.subset List.mem_cons_self)
    rw [snd_scan_cons hne, exposes_eq_false (.inl hdepth), Bool.false_or]
    exact ih (suffix_after_turnAt (.inl hcloser) h)

theorem Context.Sound.classify_of_no_closer {g : Grammar} {ctx : Context} (hsound : ctx.Sound g)
    (h : pair :: outer <:+ ctx.depth) (line : List Char) :
    pair :: outer <:+ (ctx.classify g line).1.depth ∧
      (ctx.classify g line).2 = if Text.trim line = [] then .blank else .comment := by
  by_cases hblank : Text.trim line = []
  · have hclassify : ctx.classify g line = (ctx, .blank) := by simp [Context.classify, hblank]
    rw [hclassify, if_pos hblank]
    exact ⟨h, rfl⟩
  · have hmem : pair ∈ ctx.depth := h.subset List.mem_cons_self
    have hne : g.blocks ≠ [] := List.ne_nil_of_mem (hsound.depth.mem pair hmem)
    rw [hsound.classify_inside (List.ne_nil_of_mem hmem) line hblank, if_neg hblank,
      snd_scan_of_no_closer hcloser hne h]
    exact ⟨suffix_fst_scan (.inl hcloser) h, rfl⟩

theorem Session.classifyAll_of_no_closer {c : Session} (hsound : c.context.Sound c.grammar)
    (h : pair :: outer <:+ c.context.depth) (lines : List (List Char)) :
    pair :: outer <:+ (c.classifyAll lines).1.context.depth ∧
      (c.classifyAll lines).2 =
        lines.map fun line => if Text.trim line = [] then .blank else .comment := by
  induction lines generalizing c with
  | nil => exact ⟨h, rfl⟩
  | cons line rest ih =>
    obtain ⟨hopen, hkind⟩ := hsound.classify_of_no_closer hcloser h line
    obtain ⟨hlater, hkinds⟩ := @ih (c.classify line).1 (hsound.classify line) hopen
    rw [Session.classifyAll_cons, List.map_cons, ← hkind, hkinds]
    exact ⟨hlater, rfl⟩

/-- A comment whose closer is empty is never left.  Whatever lines come after it has been opened,
it stays open, and so do the comments around it; each of the lines that is not blank is a
comment. -/
theorem classifyAll_unclosable (g : Grammar) (events : List Event) {around : List Delimiters}
    (hopen : around ++ [pair] <+: (Session.run g events).openBlocks) (lines : List (List Char)) :
    let after := (Session.run g events).classifyAll lines
    around ++ [pair] <+: after.1.openBlocks ∧
      after.2 = lines.map fun line => if Text.trim line = [] then .blank else .comment := by
  intro after
  have hsound := Session.run_sound g events
  have hdepth : pair :: around.reverse <:+ (Session.run g events).context.depth := by
    rw [← List.reverse_prefix, List.reverse_cons, List.reverse_reverse]
    exact hopen
  obtain ⟨hafter, hkinds⟩ := Session.classifyAll_of_no_closer hcloser
    (c := Session.run g events) (by rwa [Session.run_grammar]) hdepth lines
  refine ⟨?_, hkinds⟩
  rw [← List.reverse_prefix, List.reverse_cons, List.reverse_reverse] at hafter
  exact hafter

end Unclosable

/-- Within a comment without a closer other pairs open and close, and its own opens again. -/
theorem classifyAll_unclosable_within :
    let endless : Delimiters := ⟨['#'], []⟩
    let round : Delimiters := ⟨['('], [')']⟩
    let c := Session.run { name := "A", blocks := [endless, round] } [.line ['(', '#', '(']]
    let after := c.classifyAll [[')', ')', ' ', 'x'], [' '], ['#', '!']]
    endless.closer = [] ∧ c.openBlocks = [round, endless, round] ∧
      after.1.openBlocks = [round, endless, endless] ∧
      [round] ++ [endless] <+: after.1.openBlocks ∧ after.2 = [.comment, .blank, .comment] := by
  intro endless round c after
  have hopen : [round] ++ [endless] <+: c.openBlocks := by decide
  obtain ⟨hkept, hkinds⟩ := classifyAll_unclosable rfl _ _ hopen
    [[')', ')', ' ', 'x'], [' '], ['#', '!']]
  exact ⟨rfl, by decide, by decide, hkept, hkinds⟩

end LineCensus.Line
