import LineCensus.Proofs.Line.Shortcuts
import LineCensus.Proofs.Text.Segments
import Mathlib.Logic.Function.Iterate

/-!
# A pair that toggles

Where the only pair of a grammar opens and closes with one delimiter, a line is cut into segments by
it, which lie outside and inside of comments in turn.  The main statement gives the outcome of
every line that is scanned in terms of its segments.
-/

namespace LineCensus.Line

/-- Whether one of the segments that lie outside of comments can be seen; the first one lies inside
if a comment is open before it. -/
def ShowsOutside (inside : Bool) (segments : List (List Char)) : Prop :=
  ∃ i segment, segments[i]? = some segment ∧ i % 2 = inside.toNat ∧
    ∃ c ∈ segment, Text.isBlank c = false

variable {inside : Bool} {c : Char} {part : List Char} {parts : List (List Char)}

theorem not_showsOutside_nil : ¬ShowsOutside inside [[]] := by
  rintro ⟨i, segment, hsegment, -, c, hc, -⟩
  rw [List.getElem?_singleton] at hsegment
  split at hsegment
  · cases hsegment
    cases hc
  · cases hsegment

/-- After an occurrence of the delimiter, outside and inside are exchanged. -/
theorem showsOutside_nil_cons :
    ShowsOutside inside ([] :: parts) ↔ ShowsOutside (!inside) parts := by
  have hnext : ∀ i, (i + 1) % 2 = inside.toNat ↔ i % 2 = (!inside).toNat := by
    intro i
    cases inside <;> simp <;> omega
  constructor
  · rintro ⟨i, segment, hsegment, hside, c, hc, hvisible⟩
    cases i with
    | zero =>
      cases hsegment
      cases hc
    | succ i => exact ⟨i, segment, hsegment, (hnext i).mp hside, c, hc, hvisible⟩
  · rintro ⟨i, segment, hsegment, hside, hvisible⟩
    exact ⟨i + 1, segment, hsegment, (hnext i).mpr hside, hvisible⟩

theorem showsOutside_cons_cons :
    ShowsOutside inside ((c :: part) :: parts) ↔
      inside = false ∧ Text.isBlank c = false ∨ ShowsOutside inside (part :: parts) := by
  constructor
  · rintro ⟨i, segment, hsegment, hside, c', hc', hvisible⟩
    cases i with
    | zero =>
      cases hsegment
      rcases List.mem_cons.mp hc' with rfl | hc'
      · exact .inl ⟨by simpa using hside.symm, hvisible⟩
      · exact .inr ⟨0, part, rfl, hside, c', hc', hvisible⟩
    | succ i => exact .inr ⟨i + 1, segment, hsegment, hside, c', hc', hvisible⟩
  · rintro (⟨rfl, hvisible⟩ | ⟨i, segment, hsegment, hside, c', hc', hvisible⟩)
    · exact ⟨0, c :: part, rfl, rfl, c, List.mem_cons_self, hvisible⟩
    · cases i with
      | zero =>
        cases hsegment
        exact ⟨0, c :: part, rfl, hside, c', List.mem_cons_of_mem c hc', hvisible⟩
      | succ i => exact ⟨i + 1, segment, hsegment, hside, c', hc', hvisible⟩

/-! ## One scan -/

def depthOf (pair : Delimiters) (inside : Bool) : Depth :=
  if inside then [pair] else []

section Scan

variable {d : List Char} (hd : d ≠ [])

include hd

theorem scan_delimiter (inside : Bool) (text : List Char) :
    scan [⟨d, d⟩] (depthOf ⟨d, d⟩ inside) (d ++ text) =
      scan [⟨d, d⟩] (depthOf ⟨d, d⟩ (!inside)) text := by
  have hprefix : d <+: d ++ text := List.prefix_append d text
  cases inside with
  | false =>
    have hopen : canOpen [] (d ++ text) ⟨d, d⟩ = true := canOpen_iff.mpr ⟨hd, hprefix, fun _ => rfl⟩
    have hturn : turnAt [⟨d, d⟩] [] (d ++ text) = .opens ⟨d, d⟩ :=
      turnAt_eq_opens (List.mem_singleton_self _) hopen
        (fun other hother _ => List.mem_singleton.mp hother) nofun
    exact scan_of_opens (List.mem_singleton_self _) hopen hturn
  | true =>
    have hturn : turnAt [⟨d, d⟩] [⟨d, d⟩] (d ++ text) = .closes ⟨d, d⟩ := by
      refine turnAt_eq_closes (List.cons_ne_nil _ _) ?_ (canClose_iff.mpr ⟨hd, hprefix⟩)
      rintro _ ⟨⟩
      rw [Bool.eq_false_iff]
      intro hopen
      cases (canOpen_iff.mp hopen).2.2 rfl
    exact scan_of_closes (List.cons_ne_nil _ _) hd hturn

omit hd in
theorem scan_passing {c : Char} {rest : List Char} (hnot : ¬d <+: c :: rest) (inside : Bool) :
    scan [⟨d, d⟩] (depthOf ⟨d, d⟩ inside) (c :: rest) =
      ((scan [⟨d, d⟩] (depthOf ⟨d, d⟩ inside) rest).1,
        (!inside && !Text.isBlank c) || (scan [⟨d, d⟩] (depthOf ⟨d, d⟩ inside) rest).2) := by
  have hempty : (depthOf ⟨d, d⟩ inside).isEmpty = !inside := by cases inside <;> rfl
  have hopen : ∀ pair ∈ [(⟨d, d⟩ : Delimiters)],
      canOpen (depthOf ⟨d, d⟩ inside) (c :: rest) pair = false := by
    intro pair hpair
    rw [List.mem_singleton.mp hpair, Bool.eq_false_iff]
    exact fun hopen => hnot (canOpen_iff.mp hopen).2.1
  rw [← hempty]
  apply scan_of_passes (List.cons_ne_nil _ _) hopen
  apply turnAt_eq_passes hopen
  intro innermost hhead
  have hpair : innermost = ⟨d, d⟩ := by
    cases inside <;> cases hhead
    rfl
  rw [hpair, Bool.eq_false_iff]
  exact fun hclose => hnot (canClose_iff.mp hclose).2

/-- A scan goes in and out of comments once for each occurrence, and is code if a segment outside
can be seen. -/
theorem scan_toggling (inside : Bool) (text : List Char) :
    (scan [⟨d, d⟩] (depthOf ⟨d, d⟩ inside) text).1 =
        depthOf ⟨d, d⟩ (not^[(Text.segments d text).length - 1] inside) ∧
      ((scan [⟨d, d⟩] (depthOf ⟨d, d⟩ inside) text).2 = true ↔
        ShowsOutside inside (Text.segments d text)) := by
  induction text using Text.segments_induction hd generalizing inside with
  | nil =>
    rw [scan_nil (List.cons_ne_nil _ _), Text.segments_nil]
    exact ⟨rfl, by simp [not_showsOutside_nil]⟩
  | occurs rest ih =>
    obtain ⟨part, parts, hparts⟩ := Text.exists_segments_eq hd rest
    obtain ⟨hdepth, hcode⟩ := ih (!inside)
    rw [scan_delimiter hd, Text.segments_append hd, showsOutside_nil_cons]
    refine ⟨?_, hcode⟩
    rw [hdepth, hparts]
    exact congrArg _ (Function.iterate_succ_apply not parts.length inside).symm
  | passes c rest hnot ih =>
    obtain ⟨part, parts, hparts⟩ := Text.exists_segments_eq hd rest
    obtain ⟨hdepth, hcode⟩ := ih inside
    rw [hparts] at hdepth hcode
    rw [scan_passing hnot, Text.segments_cons hnot, hparts, List.modifyHead_cons,
      showsOutside_cons_cons, ← hcode]
    exact ⟨hdepth, by simp⟩

end Scan

/-! ## One line of a session -/

theorem Context.Sound.depth_eq_depthOf {g : Grammar} {pair : Delimiters}
    (hg : g.blocks = [pair]) (hpair : pair.opener = pair.closer) {ctx : Context} (h : ctx.Sound g) :
    ctx.depth = depthOf pair (!ctx.depth.isEmpty) := by
  have hlength := h.depth.length_le_one (by simp [hg, hpair])
  cases hdepth : ctx.depth with
  | nil => rfl
  | cons innermost outer =>
    have hmem := h.depth.mem innermost (by simp [hdepth])
    rw [hg, List.mem_singleton] at hmem
    rw [hdepth, List.length_cons] at hlength
    have houter : outer = [] := List.length_eq_zero_iff.mp (by omega)
    rw [hmem, houter]
    rfl

/-- What becomes of a line, in a language whose only pair has one delimiter for both its ends, if
the line is not blank, names no interpreter, is more than a byte order mark, and is not called a
comment for its start outside of comments.  The delimiter is taken at its leftmost occurrences; each
of them leads into a comment or out of it, no more than one is ever open, and the line is code
exactly if something can be seen in a segment outside. -/
theorem classify_toggling {g : Grammar} {d : List Char} (hd : d ≠ []) (hg : g.blocks = [⟨d, d⟩])
    (events : List Event) (line : List Char) :
    let c := Session.run g events
    let after := c.classify line
    let text := c.context.body line
    let segments := Text.segments d text
    ¬c.context.namesInterpreter line → text ≠ [] →
      (c.inBlock = false → startsComment g text = false) →
      Text.Cuts d text segments ∧
        after.1.inBlock = not^[segments.length - 1] c.inBlock ∧
        after.1.context.depth.length ≤ 1 ∧
        (after.2 = .code ↔ ∃ i segment, segments[i]? = some segment ∧ i % 2 = c.inBlock.toNat ∧
          ∃ ch ∈ segment, Text.isBlank ch = false) := by
  intro c after text segments hnames hbody hmarker
  have hsound := Session.run_sound g events
  have hdepth := hsound.depth_eq_depthOf hg rfl
  have hscanned := c.context.classifyByScan_of_scanned (g := g) hnames hbody
    fun hnil => hmarker (by simp [Session.inBlock, hnil])
  rw [hsound.classifyByScan_eq, hg, hdepth] at hscanned
  obtain ⟨hinside, hcode⟩ := scan_toggling hd c.inBlock text
  have hcontext : after.1.context.depth = depthOf ⟨d, d⟩ (not^[segments.length - 1] c.inBlock) := by
    rw [Session.context_classify_run, hscanned]
    exact hinside
  have hkind : after.2 = .code ↔ (scan [⟨d, d⟩] (depthOf ⟨d, d⟩ c.inBlock) text).2 = true := by
    rw [Session.snd_classify_run, hscanned]
    show (if (scan [⟨d, d⟩] (depthOf ⟨d, d⟩ c.inBlock) text).2 = true then _ else _) = _ ↔ _
    split <;> simp [*]
  refine ⟨Text.cuts_segments hd text, ?_, ?_, hkind.trans hcode⟩
  · rw [Session.inBlock, hcontext]
    cases not^[segments.length - 1] c.inBlock <;> rfl
  · rw [hcontext]
    cases not^[segments.length - 1] c.inBlock <;> simp [depthOf]

/-- Five quotes inside of a comment: the first three end it, and the other two are code. -/
theorem classify_toggling_quotes :
    let d := ['"', '"', '"']
    let g : Grammar := { name := "A", blocks := [⟨d, d⟩] }
    let c := Session.run g [.line ['x', '"', '"', '"']]
    let line := [' ', 'y', '"', '"', '"', '"', '"']
    c.inBlock = true ∧ Text.segments d (c.context.body line) = [['y'], ['"', '"']] ∧
      (c.classify line).1.inBlock = false ∧ (c.classify line).2 = .code := by
  intro d g c line
  have hopen : c.inBlock = true := by decide
  have hsegments : Text.segments d (c.context.body line) = [['y'], ['"', '"']] := by decide
  obtain ⟨-, hinside, -, hcode⟩ := classify_toggling (g := g) (d := d) (by decide) rfl
    [.line ['x', '"', '"', '"']] line (by decide) (by decide) (by decide)
  refine ⟨hopen, hsegments, ?_, hcode.mpr ⟨1, ['"', '"'], ?_, ?_, '"', ?_⟩⟩
  · rw [hinside, hsegments, hopen]
    rfl
  · rw [hsegments]
    rfl
  · rw [hopen]
    rfl
  · decide

end LineCensus.Line
