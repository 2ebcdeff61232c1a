import LineCensus.Line.Kind
import Mathlib.Data.List.Basic

/-!
# The rules for a line

`Rule` says what a line can be and what the next line has to know, one case for each rule with
its whole guard.  Every line falls under one of them (`rule_classify`), so what holds of lines is
proved by cases on the rule and not on the program.
-/

namespace LineCensus.Line

/-- The text of a line that the rules for comments see: the line without white space around it,
and outside of comments the first line without its byte order mark. -/
def Context.body (ctx : Context) (line : List Char) : List Char :=
  match ctx.started, ctx.depth, Text.trim line with
  | false, [], c :: rest => if c = byteOrderMark then Text.trimStart rest else c :: rest
  | _, _, text => text

/-- Whether the line names an interpreter where this makes it code. -/
def Context.namesInterpreter (ctx : Context) (line : List Char) : Prop :=
  ctx.started = false ∧ ['#', '!'] <+: Text.trim line

/-- What a line is by the rules, and what the next line has to know. -/
inductive Rule (g : Grammar) (ctx : Context) (line : List Char) : Context × Kind → Prop
  | blank (hblank : Text.trim line = []) : Rule g ctx line (ctx, .blank)
  | interpreter (hnames : ctx.namesInterpreter line) :
    Rule g ctx line (⟨ctx.depth, true⟩, .code)
  | markOnly (hvisible : Text.trim line ≠ []) (hnames : ¬ctx.namesInterpreter line)
      (hbody : ctx.body line = []) :
    Rule g ctx line (⟨ctx.depth, true⟩, .code)
  | marker (hnames : ¬ctx.namesInterpreter line) (hbody : ctx.body line ≠ [])
      (hdepth : ctx.depth = []) (hmarker : startsComment g (ctx.body line) = true) :
    Rule g ctx line (⟨[], true⟩, .comment)
  | plain (hnames : ¬ctx.namesInterpreter line) (hbody : ctx.body line ≠ [])
      (hdepth : ctx.depth = []) (hmarker : startsComment g (ctx.body line) = false)
      (hopener : holdsOpener g (ctx.body line) = false) :
    Rule g ctx line (⟨[], true⟩, .code)
  | disabled (hnames : ¬ctx.namesInterpreter line) (hbody : ctx.body line ≠ [])
      (hdepth : ctx.depth ≠ []) (hdisabled : g.blocksDisabled = true) :
    Rule g ctx line (⟨ctx.depth, true⟩, .code)
  | scanned (hnames : ¬ctx.namesInterpreter line) (hbody : ctx.body line ≠ [])
      (hdisabled : g.blocksDisabled = false)
      (hreach : ctx.depth ≠ [] ∨
        startsComment g (ctx.body line) = false ∧ holdsOpener g (ctx.body line) = true) :
    Rule g ctx line (⟨(scan g.blocks ctx.depth (ctx.body line)).1, true⟩,
      if (scan g.blocks ctx.depth (ctx.body line)).2 then .code else .comment)

theorem openers_eq_nil_iff {g : Grammar} :
    g.openers = [] ↔ ∀ pair ∈ g.blocks, pair.opener = [] := by
  simp [Grammar.openers]

theorem holdsOpener_eq_false {g : Grammar} (h : ∀ pair ∈ g.blocks, pair.opener = [])
    (text : List Char) : holdsOpener g text = false := by
  simp [holdsOpener, openers_eq_nil_iff.mpr h]

theorem opener_eq_nil_of_disabled {g : Grammar} (h : g.blocksDisabled = true) :
    ∀ pair ∈ g.blocks, pair.opener = [] := by
  have hblocks : g.blocks = [⟨[], []⟩] := by simpa [Grammar.blocksDisabled] using h
  simp [hblocks]

private theorem rule_outside {g : Grammar} {ctx : Context} {line : List Char}
    (hnames : ¬ctx.namesInterpreter line) (hbody : ctx.body line ≠ []) (hdepth : ctx.depth = []) :
    Rule g ctx line (⟨(classifyOutside g (ctx.body line)).1, true⟩,
      (classifyOutside g (ctx.body line)).2) := by
  unfold classifyOutside
  split
  · next hmarker => exact .marker hnames hbody hdepth hmarker
  · next hmarker =>
    have hmarker' := Bool.eq_false_iff.mpr hmarker
    split
    · next hplain =>
      refine .plain hnames hbody hdepth hmarker' ?_
      rcases Bool.or_eq_true_iff.mp hplain with hempty | hopener
      · exact holdsOpener_eq_false (by simp [List.isEmpty_iff.mp hempty]) _
      · simpa using hopener
    · next hscan =>
      have hopener : holdsOpener g (ctx.body line) = true := by simp_all
      have hdisabled : g.blocksDisabled = false := by
        rw [Bool.eq_false_iff]
        intro hdisabled
        simp [holdsOpener_eq_false (opener_eq_nil_of_disabled hdisabled)] at hopener
      simpa [scanLine, hdisabled, hdepth] using
        Rule.scanned hnames hbody hdisabled (.inr ⟨hmarker', hopener⟩)

private theorem rule_inside {g : Grammar} {ctx : Context} {line : List Char}
    (hnames : ¬ctx.namesInterpreter line) (hbody : ctx.body line ≠ []) (hdepth : ctx.depth ≠ []) :
    Rule g ctx line (⟨(scanLine g ctx.depth (ctx.body line)).1, true⟩,
      (scanLine g ctx.depth (ctx.body line)).2) := by
  unfold scanLine
  split
  · next hdisabled => exact .disabled hnames hbody hdepth hdisabled
  · next hdisabled =>
    exact .scanned hnames hbody (Bool.eq_false_iff.mpr hdisabled) (.inl hdepth)

theorem body_of_depth {ctx : Context} (h : ctx.depth ≠ []) (line : List Char) :
    ctx.body line = Text.trim line := by
  unfold Context.body
  split
  · next hdepth _ => exact absurd hdepth h
  · rfl

theorem body_of_started {ctx : Context} (h : ctx.started = true) (line : List Char) :
    ctx.body line = Text.trim line := by
  simp [Context.body, h]

theorem body_of_unmarked (ctx : Context) {line : List Char}
    (h : ¬[byteOrderMark] <+: Text.trim line) : ctx.body line = Text.trim line := by
  unfold Context.body
  split
  · next c rest _ _ htrim =>
    have hc : c ≠ byteOrderMark := by
      rintro rfl
      exact h (htrim ▸ List.prefix_append [byteOrderMark] rest)
    rw [if_neg hc, htrim]
  · rfl

/-- Every line is classified by one of the rules. -/
theorem rule_classify (g : Grammar) (ctx : Context) (line : List Char) :
    Rule g ctx line (ctx.classify g line) := by
  cases htrim : Text.trim line with
  | nil => simpa [Context.classify, htrim] using Rule.blank htrim
  | cons c rest =>
    have hvisible : Text.trim line ≠ [] := by simp [htrim]
    have hclassify : ctx.classify g line =
        (⟨(classifyVisible g ctx (c :: rest)).1, true⟩, (classifyVisible g ctx (c :: rest)).2) := by
      simp [Context.classify, htrim]
    rw [hclassify]
    by_cases hnames : ctx.namesInterpreter line
    · obtain ⟨hstarted, tail, htail⟩ := id hnames
      have hline : c :: rest = '#' :: '!' :: tail := htrim.symm.trans htail.symm
      rw [hline, classifyVisible.eq_1 g ctx tail hstarted]
      exact .interpreter hnames
    have hnot : ∀ tail, ctx.started = false → c :: rest = '#' :: '!' :: tail → False := by
      intro tail hstarted hline
      exact hnames ⟨hstarted, tail, (htrim.trans hline).symm⟩
    by_cases hdepth : ctx.depth = []
    · cases hstarted : ctx.started with
      | true =>
        have hbody : ctx.body line = c :: rest := (body_of_started hstarted line).trans htrim
        rw [classifyVisible.eq_3 g ctx _ hdepth hnot (by simp [hstarted]), ← hbody]
        exact rule_outside hnames (by simp [hbody]) hdepth
      | false =>
        have hshape : ∀ tail, c = '#' → rest = '!' :: tail → False := by
          rintro tail rfl rfl
          exact hnot tail hstarted rfl
        rw [classifyVisible.eq_2 g ctx c rest hshape hstarted hdepth]
        by_cases hmark : c = byteOrderMark
        · have hbody : ctx.body line = Text.trimStart rest := by
            simp [Context.body, hstarted, hdepth, htrim, hmark]
          by_cases hempty : Text.trimStart rest = []
          · simpa [hmark, hempty, hdepth] using
              Rule.markOnly hvisible hnames (hbody.trans hempty)
          · simpa [hmark, hempty, hbody] using rule_outside hnames (by rwa [hbody]) hdepth
        · have hbody : ctx.body line = c :: rest := by
            simp [Context.body, hstarted, hdepth, htrim, hmark]
          simpa [hmark, hbody] using rule_outside hnames (by simp [hbody]) hdepth
    · have hbody : ctx.body line = c :: rest := (body_of_depth hdepth line).trans htrim
      rw [classifyVisible.eq_4 g ctx _ hnot hdepth (fun _ _ _ h _ => hdepth h), ← hbody]
      exact rule_inside hnames (by simp [hbody]) hdepth

end LineCensus.Line
