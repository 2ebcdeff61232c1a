import LineCensus.Proofs.Line.Closing
import LineCensus.Registry

/-!
# The closers of the bundled languages

In every bundled language a line with the closer of the innermost comment ends that comment, with
two exceptions: the closer of a Perl comment starts with its own opener, and one of the two
closers of Q is the opener of the pair that is tried first.
-/

namespace LineCensus.Line

/-- No closer of the table has white space around it, and only in Perl and in one pair of Q does
the first pair open at the start of a closer. -/
theorem bundled_closers : ∀ g ∈ Registry.bundled.grammars, ∀ pair ∈ g.blocks,
    pair.opener ≠ [] → pair.closer ≠ [] ∧ Text.trim pair.closer = pair.closer ∧
      ∀ first ∈ g.blocks.head?, (canOpen [pair] pair.closer first = true ↔
        g.name = "Perl" ∨ g.name = "Q" ∧ pair = ⟨['/'], ['\\']⟩) := by
  decide +kernel

/-- In a bundled language a line with the closer of the innermost comment ends it, whatever
comments are open around it, unless this is a comment of Perl or one that Q opens by a slash. -/
theorem closer_closes_iff {g : Grammar} (hg : g ∈ Registry.bundled.grammars)
    (events : List Event) {pair : Delimiters} {outer : Depth}
    (hdepth : (Session.run g events).context.depth = pair :: outer) :
    ((Session.run g events).classify pair.closer).1.context.depth = outer ↔
      ¬(g.name = "Perl" ∨ g.name = "Q" ∧ pair = ⟨['/'], ['\\']⟩) := by
  have hsound := Session.run_sound g events
  have hmem : pair ∈ g.blocks := hsound.depth.mem pair (by simp [hdepth])
  have hopener : pair.opener ≠ [] := hsound.depth.opener_ne_nil pair (by simp [hdepth])
  obtain ⟨hne, htrim, hfirst⟩ := bundled_closers g hg pair hmem hopener
  obtain ⟨first, more, hblocks⟩ := List.exists_cons_of_ne_nil (List.ne_nil_of_mem hmem)
  have hclassify := hsound.classify_inside (by simp [hdepth]) pair.closer (by rwa [htrim])
  rw [Session.context_classify_run, hclassify, htrim, hdepth, hblocks, fst_scan_closer_iff hne,
    ← hfirst first (by simp [hblocks]), Bool.not_eq_true]
  rfl

/-- Q opens comments by either delimiter; of two that are open the inner one is closed. -/
theorem closer_closes_in_q :
    let q : Grammar :=
      ⟨"Q", [['/', ' ']], [⟨['\\'], ['/']⟩, ⟨['/'], ['\\']⟩]⟩
    let c := Session.run q [.line ['/'], .line ['\\']]
    q ∈ Registry.bundled.grammars ∧
      c.context.depth = [⟨['\\'], ['/']⟩, ⟨['/'], ['\\']⟩] ∧
      (c.classify ['/']).1.context.depth = [⟨['/'], ['\\']⟩] := by
  intro q c
  have hq : q ∈ Registry.bundled.grammars := by decide
  have hdepth : c.context.depth = [⟨['\\'], ['/']⟩, ⟨['/'], ['\\']⟩] := by decide
  exact ⟨hq, hdepth, (closer_closes_iff hq _ hdepth).mpr (by decide)⟩

/-- The closer of a Perl comment opens another one instead. -/
theorem perl_closer_opens :
    let pod : Delimiters := ⟨[':', '='], [':', '=', 'c', 'u', 't']⟩
    let perl : Grammar := ⟨"Perl", [['#']], [pod]⟩
    let c := Session.run perl [.line [':', '=']]
    perl ∈ Registry.bundled.grammars ∧ c.context.depth = [pod] ∧
      (c.classify pod.closer).1.context.depth = [pod, pod] := by
  intro pod perl c
  exact ⟨by decide, by decide, by decide⟩

end LineCensus.Line
