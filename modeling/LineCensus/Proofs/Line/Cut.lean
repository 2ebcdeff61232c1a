import LineCensus.Proofs.Line.Nesting
import LineCensus.Proofs.Line.Shortcuts

/-!
# Lines that are cut in two

Where no delimiter stands across a cut, a scan comes by the cut, and what stands behind it is
scanned from the comments that are open there.  The delimiters may overlap in any way.
-/

namespace LineCensus.Line

/-- The delimiter occurs in the whole text so that it begins before the cut and ends behind it. -/
def Straddles (delimiter before behind : List Char) : Prop :=
  ∃ start < before.length, before.length < start + delimiter.length ∧
    delimiter <+: (before ++ behind).drop start

instance (delimiter before behind : List Char) : Decidable (Straddles delimiter before behind) :=
  inferInstanceAs (Decidable (∃ start < before.length, _ ∧ _))

theorem Straddles.of_drop {delimiter before behind : List Char} {n : Nat}
    (h : Straddles delimiter (before.drop n) behind) : Straddles delimiter before behind := by
  obtain ⟨start, hstart, hend, hprefix⟩ := h
  rw [List.length_drop] at hstart hend
  have hn : n ≤ before.length := by omega
  refine ⟨n + start, by omega, by omega, ?_⟩
  rwa [← List.drop_append_of_le_length hn, List.drop_drop] at hprefix

/-- In front of the cut, whether a delimiter stands there is seen without the text behind it. -/
theorem prefix_append_iff {delimiter before behind : List Char}
    (h : ¬Straddles delimiter before behind) (hne : before ≠ []) :
    delimiter <+: before ++ behind ↔ delimiter <+: before := by
  constructor
  · intro hprefix
    by_cases hlength : delimiter.length ≤ before.length
    · exact List.prefix_of_prefix_length_le hprefix (List.prefix_append _ _) hlength
    · exact absurd ⟨0, List.length_pos_of_ne_nil hne, by omega, by simpa⟩ h
  · exact fun hprefix => hprefix.trans (List.prefix_append _ _)

theorem canOpen_append {depth : Depth} {before behind : List Char} {pair : Delimiters}
    (h : ¬Straddles pair.opener before behind) (hne : before ≠ []) :
    canOpen depth (before ++ behind) pair = canOpen depth before pair := by
  rw [Bool.eq_iff_iff, canOpen_iff, canOpen_iff, prefix_append_iff h hne]

theorem canClose_append {before behind : List Char} {pair : Delimiters}
    (h : ¬Straddles pair.closer before behind) (hne : before ≠ []) :
    canClose (before ++ behind) pair = canClose before pair := by
  rw [Bool.eq_iff_iff, canClose_iff, canClose_iff, prefix_append_iff h hne]

theorem extra_turnAt_le (blocks : List Delimiters) (depth : Depth) (c : Char) (rest : List Char) :
    (turnAt blocks depth (c :: rest)).extra ≤ rest.length := by
  rcases turnAt_cases blocks depth (c :: rest) with
    ⟨pair, -, hopen, hturn⟩ | ⟨innermost, outer, -, hclose, hturn⟩ | hturn
  · have hlength := (canOpen_iff.mp hopen).2.1.length_le
    rw [List.length_cons] at hlength
    rw [hturn, Turn.extra]
    omega
  · have hlength := (canClose_iff.mp hclose).2.length_le
    rw [List.length_cons] at hlength
    rw [hturn, Turn.extra]
    omega
  · rw [hturn]
    exact Nat.zero_le _

/-- No delimiter that a scan may look for stands across the cut: none of the grammar, and no closer
of an open comment. -/
structure Uncut (blocks : List Delimiters) (depth : Depth) (before behind : List Char) : Prop where
  opener : ∀ pair ∈ blocks, ¬Straddles pair.opener before behind
  closer : ∀ pair ∈ blocks, ¬Straddles pair.closer before behind
  depth : ∀ pair ∈ depth, ¬Straddles pair.closer before behind

namespace Uncut

variable {blocks : List Delimiters} {depth : Depth} {before behind : List Char} {c : Char}
  {rest : List Char}

theorem turnAt_append (h : Uncut blocks depth before behind) (hne : before ≠ []) :
    turnAt blocks depth (before ++ behind) = turnAt blocks depth before := by
  apply turnAt_congr
  · exact fun pair hpair => canOpen_append (h.opener pair hpair) hne
  · exact fun innermost hhead =>
      canClose_append (h.depth innermost (List.mem_of_head? hhead)) hne

theorem exposes_append (h : Uncut blocks depth (c :: rest) behind) :
    exposes blocks depth (c :: (rest ++ behind)) = exposes blocks depth (c :: rest) := by
  have hopen : ∀ pair ∈ blocks,
      canOpen depth (c :: (rest ++ behind)) pair = canOpen depth (c :: rest) pair :=
    fun pair hpair => canOpen_append (h.opener pair hpair) (List.cons_ne_nil c rest)
  have hany : blocks.any (canOpen depth (c :: (rest ++ behind))) =
      blocks.any (canOpen depth (c :: rest)) := by
    rw [Bool.eq_iff_iff, List.any_eq_true, List.any_eq_true]
    exact exists_congr fun pair => and_congr_right fun hpair => by rw [hopen pair hpair]
  rw [exposes, exposes, hany]

theorem after_turnAt (h : Uncut blocks depth (c :: rest) behind) :
    Uncut blocks ((turnAt blocks depth (c :: rest)).after depth)
      (rest.drop (turnAt blocks depth (c :: rest)).extra) behind := by
  have hlater : ∀ {delimiter n}, ¬Straddles delimiter (c :: rest) behind →
      ¬Straddles delimiter (rest.drop n) behind := by
    intro delimiter n hnot hstraddles
    exact hnot (Straddles.of_drop (n := n + 1) hstraddles)
  refine ⟨fun pair hpair => hlater (h.opener pair hpair),
    fun pair hpair => hlater (h.closer pair hpair), ?_⟩
  rcases turnAt_cases blocks depth (c :: rest) with
    ⟨opened, hopened, -, hturn⟩ | ⟨innermost, outer, rfl, -, hturn⟩ | hturn
  · rw [hturn]
    exact List.forall_mem_cons.mpr
      ⟨hlater (h.closer opened hopened), fun pair hpair => hlater (h.depth pair hpair)⟩
  · rw [hturn]
    exact fun pair hpair => hlater (h.depth pair (List.mem_cons_of_mem innermost hpair))
  · rw [hturn]
    exact fun pair hpair => hlater (h.depth pair hpair)

/-- A scan comes by the cut: by turns, each of which is the same with the text behind the cut and
without it. -/
theorem scan_append (hne : blocks ≠ []) (h : Uncut blocks depth before behind) :
    scan blocks depth (before ++ behind) =
      ((scan blocks (scan blocks depth before).1 behind).1,
        (scan blocks depth before).2 ||
          (scan blocks (scan blocks depth before).1 behind).2) := by
  induction depth, before using turn_induction blocks with
  | done depth => rw [List.nil_append, scan_nil hne, Bool.false_or]
  | turn depth c rest ih =>
    have hturn : turnAt blocks depth (c :: (rest ++ behind)) = turnAt blocks depth (c :: rest) :=
      h.turnAt_append (List.cons_ne_nil c rest)
    have hdrop : (rest ++ behind).drop (turnAt blocks depth (c :: rest)).extra =
        rest.drop (turnAt blocks depth (c :: rest)).extra ++ behind :=
      List.drop_append_of_le_length (extra_turnAt_le blocks depth c rest)
    rw [List.cons_append, scan_cons hne, hturn, h.exposes_append, hdrop, ih h.after_turnAt,
      scan_cons hne depth c rest, Bool.or_assoc]

end Uncut

/-- A line that is cut where no delimiter of the grammar stands across the cut is scanned as its two
parts are, one after the other: the same comments are open at the end, and the line is code exactly
if one of the parts is.  The comments that are open before are of the grammar, as they are in every
session, or have closers that do not stand across the cut either. -/
theorem scan_of_cut (g : Grammar) (depth : Depth) (before behind : List Char)
    (hcut : ∀ delimiter ∈ delimiterTexts g.blocks, ¬Straddles delimiter before behind)
    (hdepth : ∀ pair ∈ depth, pair ∈ g.blocks ∨ ¬Straddles pair.closer before behind) :
    let first := scan g.blocks depth before
    let second := scan g.blocks first.1 behind
    let whole := scan g.blocks depth (before ++ behind)
    whole.1 = second.1 ∧ (whole.2 = true ↔ first.2 = true ∨ second.2 = true) := by
  intro first second whole
  have hopener : ∀ pair ∈ g.blocks, ¬Straddles pair.opener before behind :=
    fun pair hpair => hcut _ (opener_mem_delimiterTexts hpair)
  have hcloser : ∀ pair ∈ g.blocks, ¬Straddles pair.closer before behind :=
    fun pair hpair => hcut _ (closer_mem_delimiterTexts hpair)
  have huncut : Uncut g.blocks depth before behind :=
    ⟨hopener, hcloser, fun pair hpair => (hdepth pair hpair).elim (hcloser pair) id⟩
  by_cases hne : g.blocks = []
  · simp only [whole, second, first, hne, scan_of_no_blocks, or_self, and_self]
  · have hscan : whole = (second.1, first.2 || second.2) := huncut.scan_append hne
    rw [hscan, Bool.or_eq_true]
    exact ⟨rfl, Iff.rfl⟩

/-- Openers of which one starts with the other, and a comment of no pair of the grammar that is open
around all. -/
theorem scan_of_cut_overlapping :
    let round : Delimiters := ⟨['('], [')']⟩
    let starred : Delimiters := ⟨['(', '*'], ['*', ')']⟩
    let other : Delimiters := ⟨['<'], ['>']⟩
    let g : Grammar := { name := "A", blocks := [starred, round] }
    let before := ['a', '>', 'b', '(']
    let behind := ['c', '*', ')', '(', '*']
    (∀ delimiter ∈ delimiterTexts g.blocks, ¬Straddles delimiter before behind) ∧
      (∀ pair ∈ [other], pair ∈ g.blocks ∨ ¬Straddles pair.closer before behind) ∧
      (scan g.blocks [other] (before ++ behind)).1 = [starred] ∧
      (scan g.blocks [other] (before ++ behind)).2 = true := by
  intro round starred other g before behind
  have hcut : ∀ delimiter ∈ delimiterTexts g.blocks, ¬Straddles delimiter before behind := by
    decide
  have hdepth : ∀ pair ∈ [other], pair ∈ g.blocks ∨ ¬Straddles pair.closer before behind := by
    decide
  obtain ⟨hopen, hcode⟩ := scan_of_cut g [other] before behind hcut hdepth
  refine ⟨hcut, hdepth, hopen.trans (by decide), hcode.mpr (.inl (by decide))⟩

end LineCensus.Line
