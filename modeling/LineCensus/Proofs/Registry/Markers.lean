import LineCensus.Proofs.Line.Shortcuts
import LineCensus.Registry

/-!
# The line markers of the bundled languages

A line that starts with a line marker is a comment, whatever follows the marker.  The test is made
on the line without the white space at its end, so it misses a marker that ends with white space
itself where nothing follows.  Factor has such a marker; that of Q starts with an opener, and is
never asked for.
-/

namespace LineCensus.Line

/-- The grammar of Factor, whose line marker ends with a space. -/
def factor : Grammar :=
  ⟨"Factor", [['!', ' ']], [⟨[], []⟩]⟩

/-- Every marker of the table starts with a character other than the byte order mark, and outside
of Factor it ends with a visible one or starts with an opener. -/
theorem bundled_markers : ∀ g ∈ Registry.bundled.grammars, ∀ marker ∈ g.lineMarkers,
    marker ≠ [] ∧ marker.head? ≠ some byteOrderMark ∧
      (g = factor ∨ g.name ≠ "Factor" ∧
        (Text.trimEnd marker = marker ∨ g.openers.any (·.isPrefixOf marker) = true)) := by
  decide +kernel

theorem bundled_marker_kept {g : Grammar} (hg : g ∈ Registry.bundled.grammars)
    {marker line : List Char} (hmarker : marker ∈ g.lineMarkers)
    (hstarts : marker <+: Text.trimStart line)
    (hopeners : ∀ opener ∈ g.openers, ¬opener <+: Text.trimStart line) :
    marker <+: Text.trim line ∧ ¬(g.name = "Factor" ∧ Text.trim line = ['!']) ∨
      g = factor ∧ Text.trim line = ['!'] := by
  obtain ⟨-, -, rfl | ⟨hname, htable⟩⟩ := bundled_markers g hg marker hmarker
  · obtain rfl : marker = ['!', ' '] := List.mem_singleton.mp hmarker
    rcases Text.prefix_trim_or hstarts with hkept | hcut
    · refine .inl ⟨hkept, fun ⟨_, halone⟩ => ?_⟩
      rw [halone] at hkept
      exact absurd hkept (by decide)
    · exact .inr ⟨rfl, hcut⟩
  · refine .inl ⟨?_, fun h => hname h.1⟩
    rcases htable with hwhole | hopens
    · rcases Text.prefix_trim_or hstarts with hkept | hcut
      · exact hkept
      · rw [hcut, hwhole]
    · obtain ⟨opener, hopener, hprefix⟩ := List.any_eq_true.mp hopens
      have hfront := (List.isPrefixOf_iff_prefix.mp hprefix).trans hstarts
      exact absurd hfront (hopeners opener hopener)

/-! ## Lines outside of comments -/

theorem startsComment_iff {g : Grammar} {text : List Char} :
    startsComment g text = true ↔
      (∃ marker ∈ g.lineMarkers, marker <+: text) ∧ ∀ opener ∈ g.openers, ¬opener <+: text := by
  simp [startsComment]

section Outside

variable {g : Grammar} {ctx : Context} (hsound : ctx.Sound g) (hdepth : ctx.depth = [])
  {line : List Char} (hnames : ¬ctx.namesInterpreter line) (hbody : ctx.body line ≠ [])

include hsound hdepth hnames hbody

theorem Context.Sound.classify_of_startsComment
    (hmarker : startsComment g (ctx.body line) = true) :
    ctx.classify g line = (⟨[], true⟩, .comment) := by
  rw [← hsound.classifyByScan_eq, classifyByScan, if_neg (trim_ne_nil_of_body hbody),
    if_neg (not_or.mpr ⟨hnames, hbody⟩), if_pos ⟨hdepth, hmarker⟩]

theorem Context.Sound.classify_of_plain (hmarker : startsComment g (ctx.body line) = false)
    (hopener : holdsOpener g (ctx.body line) = false) :
    ctx.classify g line = (⟨[], true⟩, .code) := by
  obtain ⟨c, rest, htext⟩ := List.exists_cons_of_ne_nil hbody
  rw [← hsound.classifyByScan_eq, classifyByScan_of_scanned hnames hbody fun _ => hmarker, hdepth,
    htext, scan_of_plain (isBlank_of_body htext) (htext ▸ hopener)]
  rfl

end Outside

/-- In a bundled language, a line that starts with a line marker and with no opener, outside of
comments and not naming an interpreter, is a comment and opens none, whatever follows the marker.
There is one exception: a line of Factor with nothing but white space after the exclamation mark is
code, the space that belongs to the marker included. -/
theorem classify_of_lineMarker {g : Grammar} (hg : g ∈ Registry.bundled.grammars)
    (events : List Event) {marker : List Char} (hmarker : marker ∈ g.lineMarkers)
    (line : List Char) :
    let c := Session.run g events
    let after := c.classify line
    c.context.depth = [] → ¬c.context.namesInterpreter line → marker <+: Text.trimStart line →
      (∀ opener ∈ g.openers, ¬opener <+: Text.trimStart line) →
      after.1.context.depth = [] ∧
        after.2 = if g.name = "Factor" ∧ Text.trim line = ['!'] then .code else .comment := by
  intro c after hdepth hnames hstarts hopeners
  have hsound := Session.run_sound g events
  obtain ⟨hne, hhead, -⟩ := bundled_markers g hg marker hmarker
  obtain ⟨first, more, rfl⟩ := List.exists_cons_of_ne_nil hne
  obtain ⟨rest, htext⟩ := Text.exists_trim_eq_cons hstarts
  have hbody : c.context.body line = Text.trim line := by
    apply body_of_unmarked
    rw [htext, List.cons_prefix_cons]
    rintro ⟨rfl, -⟩
    exact hhead rfl
  have hvisible : c.context.body line ≠ [] := by simp [hbody, htext]
  rw [Session.context_classify_run, Session.snd_classify_run]
  rcases bundled_marker_kept hg hmarker hstarts hopeners with ⟨hkept, hmore⟩ | ⟨rfl, halone⟩
  · have hcomment : startsComment g (c.context.body line) = true := by
      rw [hbody, startsComment_iff]
      refine ⟨⟨_, hmarker, hkept⟩, fun opener hopener hfront => ?_⟩
      exact hopeners opener hopener (hfront.trans (Text.trim_prefix_trimStart line))
    rw [hsound.classify_of_startsComment hdepth hnames hvisible hcomment, if_neg hmore]
    exact ⟨rfl, rfl⟩
  · rw [hsound.classify_of_plain hdepth hnames hvisible (by rw [hbody, halone]; decide)
      (by rw [hbody, halone]; decide), if_pos ⟨rfl, halone⟩]
    exact ⟨rfl, rfl⟩

/-- A marker of Lua that is the start of an opener, with nothing but white space after it. -/
theorem classify_of_lineMarker_in_lua :
    let lua : Grammar := ⟨"Lua", [['-', '-']], [⟨['-', '-', '[', '['], [']', ']']⟩]⟩
    let c := Session.run lua [.line ['-', '-', '[', '[', 'x', ']', ']']]
    let line := ['\t', '-', '-', '[', ' ', '\t']
    lua ∈ Registry.bundled.grammars ∧ c.context.depth = [] ∧ ¬c.context.namesInterpreter line ∧
      ['-', '-'] <+: Text.trimStart line ∧
      (∀ opener ∈ lua.openers, ¬opener <+: Text.trimStart line) ∧
      (c.classify line).1.context.depth = [] ∧ (c.classify line).2 = .comment := by
  intro lua c line
  have hlua : lua ∈ Registry.bundled.grammars := by decide
  have hnames : ¬c.context.namesInterpreter line := by decide
  have hstarts : ['-', '-'] <+: Text.trimStart line := by decide
  have hopeners : ∀ opener ∈ lua.openers, ¬opener <+: Text.trimStart line := by decide
  obtain ⟨hdepth, hkind⟩ := classify_of_lineMarker hlua _ (List.mem_singleton_self _) line rfl
    hnames hstarts hopeners
  exact ⟨hlua, rfl, hnames, hstarts, hopeners, hdepth, hkind⟩

/-- The line marker of Factor with nothing after it makes no comment. -/
theorem factor_marker_alone :
    let c := Session.run factor []
    let line := ['!', ' ']
    factor ∈ Registry.bundled.grammars ∧ line ∈ factor.lineMarkers ∧
      line <+: Text.trimStart line ∧ (∀ opener ∈ factor.openers, ¬opener <+: Text.trimStart line) ∧
      c.context.depth = [] ∧ ¬c.context.namesInterpreter line ∧ (c.classify line).2 = .code := by
  intro c line
  exact ⟨by decide, by decide, by decide, by decide, by decide, by decide, by decide⟩

end LineCensus.Line
