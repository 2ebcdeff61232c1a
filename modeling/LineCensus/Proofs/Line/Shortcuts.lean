import LineCensus.Proofs.Line.Session
import LineCensus.Proofs.Text.Trimming
import Mathlib.Data.List.Infix

/-!
# Lines that are not scanned

Three shortcuts call a line code without scanning it: the grammar has no pairs, no opener stands in
the line, or block comments are disabled.  None of them can be told from a scan, which passes such
a line from its first, visible character to its end.
-/

namespace LineCensus.Line

/-! ## The first character -/

theorem Context.isBlank_of_body {ctx : Context} {line rest : List Char} {c : Char}
    (h : ctx.body line = c :: rest) : Text.isBlank c = false := by
  unfold body at h
  split at h
  · next htrim =>
    split at h
    · exact Text.isBlank_of_trimStart h
    · cases h
      exact Text.isBlank_of_trim htrim
  · exact Text.isBlank_of_trim h

/-! ## Scans that no opener stands in the way of -/

theorem scan_of_no_blocks (depth : Depth) (text : List Char) :
    scan [] depth text = (depth, true) := by
  have hscan : scanFrom 0 depth [] text = (depth, []) := by
    induction text with
    | nil => rfl
    | cons c rest ih => exact ih
  rw [scan, List.map_nil, hscan]
  rfl

theorem canOpen_of_no_opener {g : Grammar} {text : List Char} (h : holdsOpener g text = false)
    {pair : Delimiters} (hmem : pair ∈ g.blocks) (depth : Depth) :
    canOpen depth text pair = false := by
  rw [Bool.eq_false_iff]
  intro hopen
  obtain ⟨hne, hprefix, -⟩ := canOpen_iff.mp hopen
  have hopener : pair.opener ∈ g.openers := by
    simpa [Grammar.openers, hne] using ⟨pair, hmem, rfl⟩
  have hoccurs := List.any_eq_false.mp h pair.opener hopener
  exact hoccurs (Text.occursIn_iff.mpr hprefix.isInfix)

theorem holdsOpener_tail {g : Grammar} {c : Char} {rest : List Char}
    (h : holdsOpener g (c :: rest) = false) : holdsOpener g rest = false := by
  rw [holdsOpener, List.any_eq_false] at h ⊢
  intro opener hopener hoccurs
  apply h opener hopener
  exact Text.occursIn_iff.mpr (List.infix_cons (Text.occursIn_iff.mp hoccurs))

/-- Outside of comments, a line without an opener is passed from end to end. -/
theorem scan_of_no_opener {g : Grammar} (hg : g.blocks ≠ []) {text : List Char}
    (h : holdsOpener g text = false) :
    scan g.blocks [] text = ([], text.any (!Text.isBlank ·)) := by
  induction text with
  | nil => exact scan_nil hg []
  | cons c rest ih =>
    have hopen : ∀ pair ∈ g.blocks, canOpen [] (c :: rest) pair = false :=
      fun pair hmem => canOpen_of_no_opener h hmem []
    have hturn : turnAt g.blocks [] (c :: rest) = .passes := turnAt_eq_passes hopen nofun
    rw [scan_of_passes hg hopen hturn, ih (holdsOpener_tail h)]
    rfl

theorem scan_of_plain {g : Grammar} {c : Char} {rest : List Char}
    (hvisible : Text.isBlank c = false) (h : holdsOpener g (c :: rest) = false) :
    scan g.blocks [] (c :: rest) = ([], true) := by
  by_cases hg : g.blocks = []
  · rw [hg, scan_of_no_blocks]
  · rw [scan_of_no_opener hg h, List.any_cons, hvisible]
    rfl

/-! ## The classifier without shortcuts -/

instance (ctx : Context) (line : List Char) : Decidable (ctx.namesInterpreter line) :=
  inferInstanceAs (Decidable (_ ∧ _))

/-- Classifies a line without a shortcut: unless it is blank, or names an interpreter, or holds
nothing but a byte order mark, or is a comment by its start, the line is scanned. -/
def Context.classifyByScan (g : Grammar) (ctx : Context) (line : List Char) : Context × Kind :=
  let text := ctx.body line
  if Text.trim line = [] then (ctx, .blank)
  else if ctx.namesInterpreter line ∨ text = [] then (⟨ctx.depth, true⟩, .code)
  else if ctx.depth = [] ∧ startsComment g text then (⟨[], true⟩, .comment)
  else
    let (after, isCode) := scan g.blocks ctx.depth text
    (⟨after, true⟩, if isCode then .code else .comment)

theorem Context.trim_ne_nil_of_body {ctx : Context} {line : List Char} (h : ctx.body line ≠ []) :
    Text.trim line ≠ [] := by
  intro hblank
  apply h
  unfold body
  split
  · next htrim => cases hblank.symm.trans htrim
  · exact hblank

theorem Context.classifyByScan_of_scanned {g : Grammar} {ctx : Context} {line : List Char}
    (hnames : ¬ctx.namesInterpreter line) (hbody : ctx.body line ≠ [])
    (hmarker : ctx.depth = [] → startsComment g (ctx.body line) = false) :
    ctx.classifyByScan g line = (⟨(scan g.blocks ctx.depth (ctx.body line)).1, true⟩,
      if (scan g.blocks ctx.depth (ctx.body line)).2 then .code else .comment) := by
  have hstart : ¬(ctx.depth = [] ∧ startsComment g (ctx.body line) = true) := by
    rintro ⟨hdepth, hcomment⟩
    cases (hmarker hdepth).symm.trans hcomment
  rw [classifyByScan]
  simp only [trim_ne_nil_of_body hbody, hnames, hbody, hstart, or_self, if_false]

/-- One rule at a time, the shortcuts make no difference. -/
theorem Context.Sound.classifyByScan_eq {g : Grammar} {ctx : Context} (h : ctx.Sound g)
    (line : List Char) : ctx.classifyByScan g line = ctx.classify g line := by
  have hrule := rule_classify g ctx line
  generalize ctx.classify g line = after at hrule ⊢
  cases hrule with
  | blank hblank => rw [classifyByScan, if_pos hblank]
  | interpreter hnames =>
    have hvisible : Text.trim line ≠ [] := by
      intro hblank
      simpa [hblank] using hnames.2
    rw [classifyByScan, if_neg hvisible, if_pos (.inl hnames)]
  | markOnly hvisible _ hbody => rw [classifyByScan, if_neg hvisible, if_pos (.inr hbody)]
  | marker hnames hbody hdepth hmarker =>
    rw [classifyByScan, if_neg (trim_ne_nil_of_body hbody), if_neg (by simp [hnames, hbody]),
      if_pos ⟨hdepth, hmarker⟩]
  | plain hnames hbody hdepth hmarker hopener =>
    obtain ⟨c, rest, htext⟩ := List.exists_cons_of_ne_nil hbody
    rw [classifyByScan_of_scanned hnames hbody fun _ => hmarker, hdepth, htext,
      scan_of_plain (isBlank_of_body htext) (htext ▸ hopener)]
    rfl
  | disabled _ _ hdepth hdisabled =>
    exact absurd (h.depth.eq_nil (opener_eq_nil_of_disabled hdisabled)) hdepth
  | scanned hnames hbody _ hreach =>
    apply classifyByScan_of_scanned hnames hbody
    rintro hdepth
    rcases hreach with hopen | ⟨hmarker, -⟩
    · exact absurd hdepth hopen
    · exact hmarker

theorem Context.Sound.classify_eq_of_body {g : Grammar} {ctx : Context} (h : ctx.Sound g)
    {line line' : List Char} (hvisible : Text.trim line ≠ []) (hvisible' : Text.trim line' ≠ [])
    (hnames : ¬ctx.namesInterpreter line) (hnames' : ¬ctx.namesInterpreter line')
    (hbody : ctx.body line' = ctx.body line) : ctx.classify g line' = ctx.classify g line := by
  rw [← h.classifyByScan_eq, ← h.classifyByScan_eq]
  simp only [classifyByScan, hvisible, hvisible', hnames, hnames', hbody, if_false]

def Context.runByScan (g : Grammar) (events : List Event) : Context :=
  events.foldl (fun ctx event =>
    match event with
    | .line text => (ctx.classifyByScan g text).1
    | .restart => {}) {}

theorem Context.runByScan_eq (g : Grammar) (events : List Event) :
    runByScan g events = (Session.run g events).context := by
  induction events using List.reverseRecOn with
  | nil => rfl
  | append_singleton events event ih =>
    rw [Session.run_concat, runByScan, List.foldl_append, List.foldl_cons, List.foldl_nil,
      ← runByScan, ih]
    cases event with
    | line text =>
      rw [Session.after, Session.context_classify_run]
      exact congrArg Prod.fst ((Session.run_sound g events).classifyByScan_eq text)
    | restart => rfl

/-- Whatever lines and restarts there have been, the classifier without shortcuts has the same
comments open, calls the next line the same, and leaves the same comments open after it. -/
theorem run_without_shortcuts (g : Grammar) (events : List Event) (line : List Char) :
    let c := Session.run g events
    Context.runByScan g events = c.context ∧
      (Context.runByScan g events).classifyByScan g line =
        ((c.classify line).1.context, (c.classify line).2) := by
  intro c
  rw [Context.runByScan_eq, Session.context_classify_run, Session.snd_classify_run]
  exact ⟨rfl, (Session.run_sound g events).classifyByScan_eq line⟩

end LineCensus.Line
