import LineCensus.Proofs.Line.Rule
import LineCensus.Proofs.Line.Verdict
import Mathlib.Data.List.Induction

/-!
# The open comments of a session

A session is any sequence of lines and restarts.  What holds of the open comments after each of
them follows from what one turn of a scan does to them, one rule to a line, and one event to a
session.
-/

namespace LineCensus.Line

/-! ## Sessions -/

inductive Event where
  | line (text : List Char)
  | restart

def Session.after (c : Session) : Event → Session
  | .line text => (c.classify text).1
  | .restart => c.restart

def Session.run (g : Grammar) (events : List Event) : Session :=
  events.foldl Session.after { grammar := g }

def sinceRestart (events : List Event) : List (List Char) :=
  events.foldl (fun lines event =>
    match event with
    | .line text => lines ++ [text]
    | .restart => []) []

@[simp] theorem Session.run_nil (g : Grammar) : run g [] = { grammar := g } := rfl

@[simp] theorem Session.run_concat (g : Grammar) (events : List Event) (event : Event) :
    run g (events ++ [event]) = (run g events).after event := by
  simp [run]

@[simp] theorem sinceRestart_concat_line (events : List Event) (text : List Char) :
    sinceRestart (events ++ [.line text]) = sinceRestart events ++ [text] := by
  simp [sinceRestart]

@[simp] theorem sinceRestart_concat_restart (events : List Event) :
    sinceRestart (events ++ [.restart]) = [] := by
  simp [sinceRestart]

theorem Session.after_grammar (c : Session) (event : Event) :
    (c.after event).grammar = c.grammar := by
  cases event <;> rfl

@[simp] theorem Session.run_grammar (g : Grammar) (events : List Event) :
    (run g events).grammar = g := by
  induction events using List.reverseRecOn with
  | nil => rfl
  | append_singleton events event ih => rw [run_concat, after_grammar, ih]

@[simp] theorem Session.context_classify_run (g : Grammar) (events : List Event)
    (text : List Char) :
    ((run g events).classify text).1.context = ((run g events).context.classify g text).1 := by
  simp [classify]

@[simp] theorem Session.snd_classify_run (g : Grammar) (events : List Event)
    (text : List Char) :
    ((run g events).classify text).2 = ((run g events).context.classify g text).2 := by
  simp [classify]

private theorem foldl_classify (c : Session) (known : List Kind) (lines : List (List Char)) :
    lines.foldl (fun (c, kinds) line =>
        let (c, kind) := c.classify line
        (c, kind :: kinds)) (c, known) =
      ((c.classifyAll lines).1, (c.classifyAll lines).2.reverse ++ known) := by
  simp only [Session.classifyAll, List.reverse_reverse]
  induction lines generalizing c known with
  | nil => rfl
  | cons line rest ih =>
    rw [List.foldl_cons, List.foldl_cons, ih _ (_ :: known), ih _ [_]]
    simp

@[simp] theorem Session.classifyAll_nil (c : Session) : c.classifyAll [] = (c, []) := rfl

theorem Session.classifyAll_cons (c : Session) (line : List Char) (rest : List (List Char)) :
    c.classifyAll (line :: rest) =
      (((c.classify line).1.classifyAll rest).1,
        (c.classify line).2 :: ((c.classify line).1.classifyAll rest).2) := by
  rw [classifyAll, List.foldl_cons, foldl_classify]
  simp

/-! ## What a line keeps -/

/-- What holds of the open comments after every line: they are pairs of the grammar, they could
open, and only the outermost one can be a pair that toggles. -/
structure Depth.Sound (g : Grammar) (depth : Depth) : Prop where
  mem : ∀ pair ∈ depth, pair ∈ g.blocks
  opener_ne_nil : ∀ pair ∈ depth, pair.opener ≠ []
  opener_ne_closer : ∀ pair ∈ depth.dropLast, pair.opener ≠ pair.closer

theorem Depth.Sound.nil (g : Grammar) : Sound g [] :=
  ⟨by simp, by simp, by simp⟩

theorem Depth.Sound.opens {g : Grammar} {depth : Depth} (h : Sound g depth) {text : List Char}
    {pair : Delimiters} (hmem : pair ∈ g.blocks) (hopen : canOpen depth text pair = true) :
    Sound g (pair :: depth) := by
  obtain ⟨hopener, -, htoggles⟩ := canOpen_iff.mp hopen
  refine ⟨?_, ?_, ?_⟩
  · intro other hother
    rcases List.mem_cons.mp hother with rfl | hother
    · exact hmem
    · exact h.mem other hother
  · intro other hother
    rcases List.mem_cons.mp hother with rfl | hother
    · exact hopener
    · exact h.opener_ne_nil other hother
  · intro other hother
    by_cases hdepth : depth = []
    · simp [hdepth] at hother
    · rw [List.dropLast_cons_of_ne_nil hdepth] at hother
      rcases List.mem_cons.mp hother with rfl | hother
      · exact fun hsame => hdepth (htoggles hsame)
      · exact h.opener_ne_closer other hother

theorem Depth.Sound.closes {g : Grammar} {innermost : Delimiters} {outer : Depth}
    (h : Sound g (innermost :: outer)) : Sound g outer := by
  refine ⟨fun pair hpair => h.mem pair (by simp [hpair]),
    fun pair hpair => h.opener_ne_nil pair (by simp [hpair]), fun pair hpair => ?_⟩
  apply h.opener_ne_closer
  have hne : outer ≠ [] := by
    rintro rfl
    simp at hpair
  rw [List.dropLast_cons_of_ne_nil hne]
  exact List.mem_cons_of_mem _ hpair

theorem Depth.Sound.length_le_one {g : Grammar} {depth : Depth} (h : Sound g depth)
    (htoggle : ∀ pair ∈ g.blocks, pair.opener = pair.closer) : depth.length ≤ 1 := by
  have hinner : depth.dropLast = [] := by
    rw [List.eq_nil_iff_forall_not_mem]
    intro pair hpair
    have hmem := h.mem pair ((List.dropLast_sublist depth).subset hpair)
    exact h.opener_ne_closer pair hpair (htoggle pair hmem)
  have hlength := congrArg List.length hinner
  rw [List.length_dropLast, List.length_nil] at hlength
  omega

theorem Depth.Sound.eq_nil {g : Grammar} {depth : Depth} (h : Sound g depth)
    (hopeners : ∀ pair ∈ g.blocks, pair.opener = []) : depth = [] := by
  rw [List.eq_nil_iff_forall_not_mem]
  intro pair hpair
  exact h.opener_ne_nil pair hpair (hopeners pair (h.mem pair hpair))

theorem Depth.Sound.after_scan {g : Grammar} {depth : Depth} (h : Sound g depth)
    (text : List Char) : Sound g (scan g.blocks depth text).1 :=
  fst_scan_invariant (fun _ _ _ hd hmem hopen => hd.opens hmem hopen)
    (fun _ _ hd => hd.closes) h text

/-- What holds between lines: before the first visible line no comment is open. -/
structure Context.Sound (g : Grammar) (ctx : Context) : Prop where
  depth : Depth.Sound g ctx.depth
  fresh : ctx.started = false → ctx.depth = []

theorem Context.Sound.start (g : Grammar) : Sound g {} :=
  ⟨.nil g, fun _ => rfl⟩

theorem Context.Sound.classify {g : Grammar} {ctx : Context} (h : Sound g ctx)
    (line : List Char) : Sound g (ctx.classify g line).1 := by
  have hrule := rule_classify g ctx line
  generalize ctx.classify g line = after at hrule ⊢
  cases hrule with
  | blank => exact h
  | interpreter => exact ⟨h.depth, nofun⟩
  | markOnly => exact ⟨h.depth, nofun⟩
  | marker => exact ⟨.nil g, nofun⟩
  | plain => exact ⟨.nil g, nofun⟩
  | disabled => exact ⟨h.depth, nofun⟩
  | scanned => exact ⟨h.depth.after_scan _, nofun⟩

theorem Context.Sound.classify_inside {g : Grammar} {ctx : Context} (h : Sound g ctx)
    (hdepth : ctx.depth ≠ []) (line : List Char) (hvisible : Text.trim line ≠ []) :
    ctx.classify g line = (⟨(scan g.blocks ctx.depth (Text.trim line)).1, true⟩,
      if (scan g.blocks ctx.depth (Text.trim line)).2 then .code else .comment) := by
  have hbody := body_of_depth hdepth line
  have hrule := rule_classify g ctx line
  generalize ctx.classify g line = after at hrule ⊢
  cases hrule with
  | blank hblank => exact absurd hblank hvisible
  | interpreter hnames => exact absurd (h.fresh hnames.1) hdepth
  | markOnly _ _ hempty => exact absurd (hbody.symm.trans hempty) hvisible
  | marker _ _ hnil => exact absurd hnil hdepth
  | plain _ _ hnil => exact absurd hnil hdepth
  | disabled _ _ _ hdisabled =>
    exact absurd (h.depth.eq_nil (opener_eq_nil_of_disabled hdisabled)) hdepth
  | scanned => rw [hbody]

theorem Session.run_sound (g : Grammar) (events : List Event) :
    (run g events).context.Sound g := by
  induction events using List.reverseRecOn with
  | nil => exact .start g
  | append_singleton events event ih =>
    rw [run_concat]
    cases event with
    | restart => exact .start g
    | line text =>
      rw [after, context_classify_run]
      exact ih.classify text

theorem Context.started_classify (g : Grammar) (ctx : Context) (line : List Char) :
    (ctx.classify g line).1.started = (ctx.started || !(Text.trim line).isEmpty) := by
  cases htrim : Text.trim line <;> simp [classify, htrim]

theorem Session.started_run_iff (g : Grammar) (events : List Event) :
    (run g events).context.started = true ↔
      ∃ line ∈ sinceRestart events, Text.trim line ≠ [] := by
  induction events using List.reverseRecOn with
  | nil => simp [sinceRestart]
  | append_singleton events event ih =>
    rw [run_concat]
    cases event with
    | restart => simp [after, restart]
    | line text =>
      rw [after, context_classify_run, Context.started_classify]
      simp [ih, or_and_right, exists_or]

theorem Context.Sound.comment_of_no_openers {g : Grammar} {ctx : Context} (h : ctx.Sound g)
    (hopeners : ∀ pair ∈ g.blocks, pair.opener = []) {line : List Char}
    (hcomment : (ctx.classify g line).2 = .comment) :
    startsComment g (ctx.body line) = true := by
  have hdepth := h.depth.eq_nil hopeners
  have hrule := rule_classify g ctx line
  generalize ctx.classify g line = after at hrule hcomment
  cases hrule with
  | marker _ _ _ hmarker => exact hmarker
  | scanned _ _ _ hreach =>
    rcases hreach with hopen | ⟨-, hholds⟩
    · exact absurd hdepth hopen
    · simp [holdsOpener_eq_false hopeners] at hholds
  | _ => cases hcomment

/-! ## Every session -/

/-- The open comments after any lines and restarts are pairs of the grammar that can open; one
that toggles is the outermost of them, so there is never more than one if all toggle.  If no pair
can open, none ever does, and the only comments are lines that start with a marker.  Before the
first visible line nothing is open. -/
theorem depth_after_events (g : Grammar) (events : List Event) :
    let c := Session.run g events
    (∀ pair ∈ c.context.depth, pair ∈ g.blocks ∧ pair.opener ≠ []) ∧
    (∀ pair ∈ c.context.depth.dropLast, pair.opener ≠ pair.closer) ∧
    ((∀ pair ∈ g.blocks, pair.opener = pair.closer) → c.context.depth.length ≤ 1) ∧
    ((∀ pair ∈ g.blocks, pair.opener = []) →
      c.context.depth = [] ∧ ∀ line,
        (c.classify line).1.context.depth = [] ∧
        ((c.classify line).2 = .comment →
          ∃ marker ∈ g.lineMarkers, marker <+: c.context.body line)) ∧
    ((∀ line ∈ sinceRestart events, Text.trim line = []) → c.context.depth = []) := by
  intro c
  have hsound : c.context.Sound g := Session.run_sound g events
  refine ⟨?_, hsound.depth.opener_ne_closer, hsound.depth.length_le_one, ?_, ?_⟩
  · intro pair hpair
    exact ⟨hsound.depth.mem pair hpair, hsound.depth.opener_ne_nil pair hpair⟩
  · intro hopeners
    refine ⟨hsound.depth.eq_nil hopeners, fun line => ⟨?_, fun hcomment => ?_⟩⟩
    · rw [Session.context_classify_run]
      exact (hsound.classify line).depth.eq_nil hopeners
    · rw [Session.snd_classify_run] at hcomment
      have hmarker := hsound.comment_of_no_openers hopeners hcomment
      simp only [startsComment, Bool.and_eq_true, List.any_eq_true,
        List.isPrefixOf_iff_prefix] at hmarker
      exact hmarker.1
  · intro hblank
    apply hsound.fresh
    rw [← Bool.not_eq_true, Session.started_run_iff]
    rintro ⟨line, hline, hvisible⟩
    exact hvisible (hblank line hline)

/-- Two pairs that toggle, two that cannot open, and a comment left open before a restart. -/
theorem depth_after_events_instances :
    let toggling : Grammar :=
      { name := "A", blocks := [⟨['#', '#'], ['#', '#']⟩, ⟨['#'], ['#']⟩] }
    let silent : Grammar :=
      { name := "B", lineMarkers := [['-']], blocks := [⟨[], ['x']⟩, ⟨[], []⟩] }
    let opened : List Event := [.line ['#', '#', 'x'], .line ['#'], .line ['#', '#', '#']]
    ((∀ pair ∈ toggling.blocks, pair.opener = pair.closer) ∧
      (Session.run toggling opened).context.depth.length ≤ 1) ∧
    ((∀ pair ∈ silent.blocks, pair.opener = []) ∧
      ((Session.run silent opened).classify ['-', 'x']).2 = .comment ∧
      ∃ marker ∈ silent.lineMarkers,
        marker <+: (Session.run silent opened).context.body ['-', 'x']) ∧
    ((∀ line ∈ sinceRestart (opened ++ [.restart, .line [' ']]), Text.trim line = []) ∧
      (Session.run toggling (opened ++ [.restart, .line [' ']])).context.depth = []) := by
  intro toggling silent opened
  obtain ⟨-, -, hone, -⟩ := depth_after_events toggling opened
  obtain ⟨-, -, -, hsilent, -⟩ := depth_after_events silent opened
  obtain ⟨-, -, -, -, hblank⟩ :=
    depth_after_events toggling (opened ++ [.restart, .line [' ']])
  have hcomment : ((Session.run silent opened).classify ['-', 'x']).2 = .comment := by decide
  refine ⟨⟨by decide, hone (by decide)⟩, ⟨by decide, hcomment, ?_⟩, ⟨by decide, ?_⟩⟩
  · exact ((hsilent (by decide)).2 ['-', 'x']).2 hcomment
  · exact hblank (by decide)

end LineCensus.Line
