import LineCensus.Proofs.Line.Nesting
import LineCensus.Proofs.Line.Shortcuts

/-!
# The order of declaration

The pairs of a grammar are tried in the order in which they are declared.  Where never more than
one of them can act, because no two delimiters stand at the same place but the two ends of a pair
that toggles, the order makes no difference to any session.
-/

namespace LineCensus.Line

/-- No delimiter is empty, different pairs have different openers, no opener is the closer of
another pair, and no delimiter is the start of another.  A pair may toggle, and pairs may share
their closer. -/
structure TieFree (blocks : List Delimiters) : Prop where
  opener_ne_nil : ∀ pair ∈ blocks, pair.opener ≠ []
  closer_ne_nil : ∀ pair ∈ blocks, pair.closer ≠ []
  opener_inj : ∀ pair ∈ blocks, ∀ other ∈ blocks, pair.opener = other.opener → pair = other
  toggles_of_shared : ∀ pair ∈ blocks, ∀ other ∈ blocks, pair.opener = other.closer → pair = other
  eq_of_prefix : ∀ a ∈ delimiterTexts blocks, ∀ b ∈ delimiterTexts blocks, a <+: b → a = b

/-! ## One turn -/

namespace TieFree

variable {blocks blocks' : List Delimiters}

theorem eq_of_canOpen (h : TieFree blocks) {depth : Depth} {text : List Char}
    {pair other : Delimiters} (hpair : pair ∈ blocks) (hother : other ∈ blocks)
    (hopen : canOpen depth text pair = true) (hopens : canOpen depth text other = true) :
    other = pair := by
  apply h.opener_inj other hother pair hpair
  exact delimiter_eq_of_prefixes h.eq_of_prefix (opener_mem_delimiterTexts hother)
    (opener_mem_delimiterTexts hpair) (canOpen_iff.mp hopens).2.1 (canOpen_iff.mp hopen).2.1

/-- Where the innermost comment can be closed, no pair can open a comment: a pair that could would
toggle, and be open already. -/
theorem canOpen_of_canClose (h : TieFree blocks) {innermost pair : Delimiters} {outer : Depth}
    {text : List Char} (hinnermost : innermost ∈ blocks) (hpair : pair ∈ blocks)
    (hclose : canClose text innermost = true) :
    canOpen (innermost :: outer) text pair = false := by
  rw [Bool.eq_false_iff]
  intro hopen
  obtain ⟨-, hopener, htoggles⟩ := canOpen_iff.mp hopen
  have hsame : pair.opener = innermost.closer :=
    delimiter_eq_of_prefixes h.eq_of_prefix (opener_mem_delimiterTexts hpair)
      (closer_mem_delimiterTexts hinnermost) hopener (canClose_iff.mp hclose).2
  have heq : pair = innermost := h.toggles_of_shared pair hpair innermost hinnermost hsame
  rw [← heq] at hsame
  cases htoggles hsame

/-- Whatever the order of the pairs, the same turn is taken. -/
theorem turnAt_eq_of_perm (h : TieFree blocks) (hperm : blocks.Perm blocks') {depth : Depth}
    (hdepth : ∀ pair ∈ depth, pair ∈ blocks) (text : List Char) :
    turnAt blocks' depth text = turnAt blocks depth text := by
  rcases turnAt_cases blocks depth text with
    ⟨pair, hpair, hopen, hturn⟩ | ⟨innermost, outer, rfl, hclose, hturn⟩ | hturn
  · rw [hturn]
    apply turnAt_eq_opens (hperm.mem_iff.mp hpair) hopen
    · exact fun other hother => h.eq_of_canOpen hpair (hperm.mem_iff.mpr hother) hopen
    · intro innermost hhead
      obtain ⟨outer, rfl⟩ := List.head?_eq_some_iff.mp hhead
      rw [Bool.eq_false_iff]
      intro hclose
      cases hopen.symm.trans
        (h.canOpen_of_canClose (hdepth innermost List.mem_cons_self) hpair hclose)
  · rw [hturn]
    have hinnermost := hdepth innermost List.mem_cons_self
    apply turnAt_eq_closes (List.ne_nil_of_mem (hperm.mem_iff.mp hinnermost)) _ hclose
    intro first hfirst
    have hmem : first ∈ blocks := hperm.mem_iff.mpr (List.mem_of_head? hfirst)
    exact h.canOpen_of_canClose hinnermost hmem hclose
  · by_cases hne : blocks = []
    · subst hne
      rw [hperm.nil_eq]
    · obtain ⟨hopen, hclose⟩ := forall_of_turnAt_eq_passes hne hturn
      rw [hturn]
      exact turnAt_eq_passes (fun pair hpair => hopen pair (hperm.mem_iff.mpr hpair)) hclose

/-! ## One line -/

theorem exposes_eq_of_perm (hperm : blocks.Perm blocks') (depth : Depth) (text : List Char) :
    exposes blocks' depth text = exposes blocks depth text := by
  cases text with
  | nil => rfl
  | cons c rest => rw [exposes, exposes, hperm.any_eq]

theorem scan_eq_of_perm (h : TieFree blocks) (hperm : blocks.Perm blocks') {depth : Depth}
    (hdepth : ∀ pair ∈ depth, pair ∈ blocks) (text : List Char) :
    scan blocks' depth text = scan blocks depth text := by
  by_cases hne : blocks = []
  · subst hne
    rw [hperm.nil_eq]
  have hne' : blocks' ≠ [] := by
    rintro rfl
    exact hne hperm.eq_nil
  induction depth, text using turn_induction blocks with
  | done depth => rw [scan_nil hne', scan_nil hne]
  | turn depth c rest ih =>
    rw [scan_cons hne', scan_cons hne, h.turnAt_eq_of_perm hperm hdepth,
      exposes_eq_of_perm hperm, ih]
    rcases turnAt_cases blocks depth (c :: rest) with
      ⟨pair, hpair, -, hturn⟩ | ⟨innermost, outer, rfl, -, hturn⟩ | hturn
    · rw [hturn]
      exact List.forall_mem_cons.mpr ⟨hpair, hdepth⟩
    · rw [hturn]
      exact (List.forall_mem_cons.mp hdepth).2
    · rwa [hturn]

end TieFree

section Permuted

variable {g : Grammar} {blocks : List Delimiters} (hperm : g.blocks.Perm blocks)

include hperm

theorem startsComment_eq_of_perm (text : List Char) :
    startsComment { g with blocks } text = startsComment g text := by
  have hopeners : g.openers.Perm { g with blocks }.openers := (hperm.map _).filter _
  rw [startsComment, startsComment, hopeners.any_eq]

theorem Context.Sound.of_perm {ctx : Context} (h : ctx.Sound g) : ctx.Sound { g with blocks } where
  depth :=
    { mem := fun pair hpair => hperm.mem_iff.mp (h.depth.mem pair hpair)
      opener_ne_nil := h.depth.opener_ne_nil
      opener_ne_closer := h.depth.opener_ne_closer }
  fresh := h.fresh

theorem Context.Sound.classify_eq_of_perm (h : TieFree g.blocks) {ctx : Context}
    (hctx : ctx.Sound g) (line : List Char) :
    ctx.classify { g with blocks } line = ctx.classify g line := by
  rw [← (hctx.of_perm hperm).classifyByScan_eq, ← hctx.classifyByScan_eq]
  simp only [classifyByScan, startsComment_eq_of_perm hperm,
    h.scan_eq_of_perm hperm hctx.depth.mem]

/-! ## Sessions -/

theorem Session.context_run_eq_of_perm (h : TieFree g.blocks) (events : List Event) :
    (run { g with blocks } events).context = (run g events).context := by
  induction events using List.reverseRecOn with
  | nil => rfl
  | append_singleton events event ih =>
    rw [run_concat, run_concat]
    cases event with
    | line text =>
      rw [after, after, context_classify_run, context_classify_run, ih,
        (run_sound g events).classify_eq_of_perm hperm h]
    | restart => rfl

end Permuted

/-- Where no two pairs can act at the same place, the pairs can be declared in any order: whatever
lines and restarts there have been, the same comments are open, the next line is called the same,
and the same comments are open after it. -/
theorem run_permuted {g : Grammar} (h : TieFree g.blocks) {blocks : List Delimiters}
    (hperm : g.blocks.Perm blocks) (events : List Event) (line : List Char) :
    let c := Session.run g events
    let c' := Session.run { g with blocks } events
    c'.context = c.context ∧ (c'.classify line).2 = (c.classify line).2 ∧
      (c'.classify line).1.context = (c.classify line).1.context := by
  intro c c'
  have hcontext : c'.context = c.context := Session.context_run_eq_of_perm hperm h events
  have hline := (Session.run_sound g events).classify_eq_of_perm hperm h line
  refine ⟨hcontext, ?_, ?_⟩
  · rw [Session.snd_classify_run, Session.snd_classify_run, hcontext, hline]
  · rw [Session.context_classify_run, Session.context_classify_run, hcontext, hline]

/-- A pair that toggles, among two that share their closer. -/
theorem run_permuted_toggling :
    let toggling : Delimiters := ⟨['"', '"'], ['"', '"']⟩
    let round : Delimiters := ⟨['(', '*'], ['*', ')']⟩
    let curly : Delimiters := ⟨['\x7b'], ['*', ')']⟩
    let g : Grammar := { name := "A", blocks := [toggling, round, curly] }
    let events : List Event := [.line ['x', '(', '*'], .line ['\x7b', '"']]
    let line := ['*', ')', '*', ')', 'y', '"', '"']
    ((Session.run g events).classify line).2 = .code ∧
      ((Session.run { g with blocks := [curly, toggling, round] } events).classify line).2 =
        .code ∧
      ((Session.run { g with blocks := [curly, toggling, round] } events).classify line).1.context =
        ⟨[toggling], true⟩ := by
  intro toggling round curly g events line
  have h : TieFree g.blocks := ⟨by decide, by decide, by decide, by decide, by decide⟩
  have hperm : g.blocks.Perm [curly, toggling, round] := by decide
  obtain ⟨-, hkind, hcontext⟩ := run_permuted h hperm events line
  have hcode : ((Session.run g events).classify line).2 = .code := by decide
  refine ⟨hcode, hkind.trans hcode, hcontext.trans ?_⟩
  decide

end LineCensus.Line
