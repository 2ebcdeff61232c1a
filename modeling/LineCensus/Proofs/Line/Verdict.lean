import LineCensus.Proofs.Line.Turn
import Mathlib.Logic.Relation

/-!
# The verdict of a scan

A scan asks for every pair to have seen a visible character outside of comments.  Since the pairs
are told of a character in order, and only until one of them acts, the last pair sees least: the
line is code exactly if some visible character stands outside of all comments and in front of no
opener.  `scan_cons` reads the verdict off the turns alone, without the pairs' memory.
-/

namespace LineCensus.Line

/-! ## Scans without memory -/

theorem scanFrom_eq_drop (skip : Nat) (depth : Depth) (seen : List Witness) (text : List Char) :
    scanFrom skip depth seen text = scanFrom 0 depth seen (text.drop skip) := by
  induction text generalizing skip with
  | nil => simp [scanFrom]
  | cons c rest ih =>
    cases skip with
    | zero => rfl
    | succ skip => rw [scanFrom, ih, List.drop_succ_cons]

theorem scanFrom_cons (depth : Depth) (seen : List Witness) (c : Char) (rest : List Char) :
    scanFrom 0 depth seen (c :: rest) =
      scanFrom 0 ((turnAt (seen.map Witness.pair) depth (c :: rest)).after depth)
        (tryPairs depth c rest seen).2
        (rest.drop (turnAt (seen.map Witness.pair) depth (c :: rest)).extra) := by
  rw [← fst_tryPairs, ← scanFrom_eq_drop]
  rfl

theorem scan_nil {blocks : List Delimiters} (hne : blocks ≠ []) (depth : Depth) :
    scan blocks depth [] = (depth, false) :=
  congrArg (Prod.mk depth) (all_visible_fresh hne)

/-- What the pairs have been told before changes neither the open comments nor, unless all of
them have seen a visible character already, the verdict. -/
theorem scanFrom_eq_scan (blocks : List Delimiters) (depth : Depth) (text : List Char) :
    ∀ seen : List Witness, Descending seen → seen.map Witness.pair = blocks →
      (scanFrom 0 depth seen text).1 = (scan blocks depth text).1 ∧
      (blocks ≠ [] → (scanFrom 0 depth seen text).2.all Witness.visible =
        (seen.all Witness.visible || (scan blocks depth text).2)) := by
  induction depth, text using turn_induction blocks with
  | done depth =>
    intro seen _ _
    refine ⟨rfl, fun hne => ?_⟩
    rw [scan_nil hne, Bool.or_false]
    rfl
  | turn depth c rest ih =>
    intro seen hseen hpairs
    have hfresh := descending_fresh blocks
    have hmap := map_pair_fresh blocks
    have htold := ih _ (descending_tryPairs hseen depth c rest)
      ((map_pair_tryPairs depth c rest seen).trans hpairs)
    have hanew := ih _ (descending_tryPairs hfresh depth c rest)
      ((map_pair_tryPairs depth c rest _).trans hmap)
    simp only [scan, scanFrom_cons, hpairs, hmap]
    refine ⟨htold.1.trans hanew.1.symm, fun hne => ?_⟩
    have hne_seen : seen ≠ [] := by
      rintro rfl
      exact hne hpairs.symm
    rw [htold.2 hne, hanew.2 hne, all_visible_tryPairs hne_seen hseen,
      all_visible_tryPairs (by simpa using hne) hfresh, all_visible_fresh hne, hpairs, hmap,
      Bool.false_or, Bool.or_assoc]

private theorem scan_cons_parts (blocks : List Delimiters) (depth : Depth) (c : Char)
    (rest : List Char) :
    let after := scan blocks ((turnAt blocks depth (c :: rest)).after depth)
      (rest.drop (turnAt blocks depth (c :: rest)).extra)
    (scan blocks depth (c :: rest)).1 = after.1 ∧
      (blocks ≠ [] →
        (scan blocks depth (c :: rest)).2 = (exposes blocks depth (c :: rest) || after.2)) := by
  intro after
  have hmap := map_pair_fresh blocks
  have hfresh := descending_fresh blocks
  have htold := scanFrom_eq_scan blocks ((turnAt blocks depth (c :: rest)).after depth)
    (rest.drop (turnAt blocks depth (c :: rest)).extra) _
    (descending_tryPairs hfresh depth c rest) ((map_pair_tryPairs depth c rest _).trans hmap)
  rw [scan, scanFrom_cons, hmap]
  refine ⟨htold.1, fun hne => (htold.2 hne).trans ?_⟩
  rw [all_visible_tryPairs (by simpa using hne) hfresh, all_visible_fresh hne, hmap,
    Bool.false_or]

theorem fst_scan_cons (blocks : List Delimiters) (depth : Depth) (c : Char) (rest : List Char) :
    (scan blocks depth (c :: rest)).1 =
      (scan blocks ((turnAt blocks depth (c :: rest)).after depth)
        (rest.drop (turnAt blocks depth (c :: rest)).extra)).1 :=
  (scan_cons_parts blocks depth c rest).1

theorem snd_scan_cons {blocks : List Delimiters} (hne : blocks ≠ []) (depth : Depth) (c : Char)
    (rest : List Char) :
    (scan blocks depth (c :: rest)).2 =
      (exposes blocks depth (c :: rest) ||
        (scan blocks ((turnAt blocks depth (c :: rest)).after depth)
          (rest.drop (turnAt blocks depth (c :: rest)).extra)).2) :=
  (scan_cons_parts blocks depth c rest).2 hne

theorem scan_cons {blocks : List Delimiters} (hne : blocks ≠ []) (depth : Depth) (c : Char)
    (rest : List Char) :
    scan blocks depth (c :: rest) =
      let after := scan blocks ((turnAt blocks depth (c :: rest)).after depth)
        (rest.drop (turnAt blocks depth (c :: rest)).extra)
      (after.1, exposes blocks depth (c :: rest) || after.2) :=
  Prod.ext (fst_scan_cons blocks depth c rest) (snd_scan_cons hne depth c rest)

/-! ## One equation for each turn -/

theorem scan_of_opens {blocks : List Delimiters} {depth : Depth} {pair : Delimiters}
    {text : List Char} (hmem : pair ∈ blocks)
    (hopen : canOpen depth (pair.opener ++ text) pair = true)
    (hturn : turnAt blocks depth (pair.opener ++ text) = .opens pair) :
    scan blocks depth (pair.opener ++ text) = scan blocks (pair :: depth) text := by
  obtain ⟨c, rest, hopener⟩ := List.exists_cons_of_ne_nil (canOpen_iff.mp hopen).1
  have hexposes : exposes blocks depth (pair.opener ++ text) = false := by
    rw [hopener, List.cons_append] at hopen ⊢
    simp [exposes, List.any_eq_true.mpr ⟨pair, hmem, hopen⟩]
  have hdrop : (rest ++ text).drop (pair.opener.length - 1) = text := by
    simp [hopener]
  rw [hopener, List.cons_append] at hturn hexposes ⊢
  rw [scan_cons (List.ne_nil_of_mem hmem), hturn, hexposes]
  simp [Turn.after, Turn.extra, hdrop]

theorem scan_of_closes {blocks : List Delimiters} {outer : Depth} {pair : Delimiters}
    {text : List Char} (hne : blocks ≠ []) (hcloser : pair.closer ≠ [])
    (hturn : turnAt blocks (pair :: outer) (pair.closer ++ text) = .closes pair) :
    scan blocks (pair :: outer) (pair.closer ++ text) = scan blocks outer text := by
  obtain ⟨c, rest, hcons⟩ := List.exists_cons_of_ne_nil hcloser
  have hdrop : (rest ++ text).drop (pair.closer.length - 1) = text := by
    simp [hcons]
  rw [hcons, List.cons_append] at hturn ⊢
  rw [scan_cons hne, hturn, exposes_eq_false (.inl (by simp))]
  simp [Turn.after, Turn.extra, hdrop]

theorem scan_of_passes {blocks : List Delimiters} {depth : Depth} {c : Char} {rest : List Char}
    (hne : blocks ≠ []) (hopen : ∀ pair ∈ blocks, canOpen depth (c :: rest) pair = false)
    (hturn : turnAt blocks depth (c :: rest) = .passes) :
    scan blocks depth (c :: rest) =
      ((scan blocks depth rest).1,
        (depth.isEmpty && !Text.isBlank c) || (scan blocks depth rest).2) := by
  have hany : blocks.any (canOpen depth (c :: rest)) = false := by
    rw [List.any_eq_false]
    intro pair hmem
    simp [hopen pair hmem]
  rw [scan_cons hne, hturn]
  simp [Turn.after, Turn.extra, exposes, hany]

/-- What every turn keeps of the open comments, a scan keeps. -/
theorem fst_scan_invariant {blocks : List Delimiters} {P : Depth → Prop}
    (opens : ∀ depth text pair, P depth → pair ∈ blocks → canOpen depth text pair = true →
      P (pair :: depth))
    (closes : ∀ innermost outer, P (innermost :: outer) → P outer)
    {depth : Depth} (h : P depth) (text : List Char) : P (scan blocks depth text).1 := by
  induction depth, text using turn_induction blocks with
  | done depth => exact h
  | turn depth c rest ih =>
    rw [fst_scan_cons]
    apply ih
    rcases turnAt_cases blocks depth (c :: rest) with
      ⟨pair, hmem, hopen, hturn⟩ | ⟨innermost, outer, rfl, -, hturn⟩ | hturn
    · rw [hturn]
      exact opens depth _ pair h hmem hopen
    · rw [hturn]
      exact closes innermost outer h
    · rwa [hturn]

/-! ## The places a scan comes by -/

/-- A place in a line: the comments that are open there, and the text from there on. -/
structure Place where
  depth : Depth
  text : List Char

inductive Place.Leads (blocks : List Delimiters) : Place → Place → Prop
  | turn (depth : Depth) (c : Char) (rest : List Char) :
    Leads blocks ⟨depth, c :: rest⟩
      ⟨(turnAt blocks depth (c :: rest)).after depth,
        rest.drop (turnAt blocks depth (c :: rest)).extra⟩

abbrev Place.Visits (blocks : List Delimiters) : Place → Place → Prop :=
  Relation.ReflTransGen (Place.Leads blocks)

theorem Place.visits_nil_iff {blocks : List Delimiters} {depth : Depth} {p : Place} :
    Visits blocks ⟨depth, []⟩ p ↔ p = ⟨depth, []⟩ := by
  rw [Visits, Relation.ReflTransGen.cases_head_iff]
  constructor
  · rintro (rfl | ⟨_, ⟨⟩, _⟩)
    rfl
  · rintro rfl
    exact .inl rfl

theorem Place.visits_cons_iff {blocks : List Delimiters} {depth : Depth} {c : Char}
    {rest : List Char} {p : Place} :
    Visits blocks ⟨depth, c :: rest⟩ p ↔
      p = ⟨depth, c :: rest⟩ ∨
        Visits blocks ⟨(turnAt blocks depth (c :: rest)).after depth,
          rest.drop (turnAt blocks depth (c :: rest)).extra⟩ p := by
  rw [Visits, Relation.ReflTransGen.cases_head_iff]
  constructor
  · rintro (rfl | ⟨_, ⟨⟩, hrest⟩)
    · exact .inl rfl
    · exact .inr hrest
  · rintro (rfl | hrest)
    · exact .inl rfl
    · exact .inr ⟨_, .turn depth c rest, hrest⟩

theorem Place.visits_end_iff {blocks : List Delimiters} {depth after : Depth}
    {text : List Char} :
    Visits blocks ⟨depth, text⟩ ⟨after, []⟩ ↔ (scan blocks depth text).1 = after := by
  induction depth, text using turn_induction blocks with
  | done depth =>
    rw [visits_nil_iff, Place.mk.injEq]
    exact ⟨fun h => h.1.symm, fun h => ⟨h.symm, rfl⟩⟩
  | turn depth c rest ih =>
    rw [visits_cons_iff, fst_scan_cons, ← ih]
    simp

theorem exposes_iff {blocks : List Delimiters} {depth : Depth} {c : Char} {rest : List Char} :
    exposes blocks depth (c :: rest) = true ↔
      depth = [] ∧ Text.isBlank c = false ∧
        ∀ pair ∈ blocks, pair.opener ≠ [] → ¬pair.opener <+: c :: rest := by
  -- outside of comments a pair that toggles opens like any other
  have hopen : ∀ pair : Delimiters,
      canOpen [] (c :: rest) pair = false ↔
        (pair.opener ≠ [] → ¬pair.opener <+: c :: rest) := by
    intro pair
    rw [← Bool.not_eq_true, canOpen_iff]
    simp
  constructor
  · intro h
    simp only [exposes, Bool.and_eq_true, Bool.not_eq_true', List.isEmpty_iff,
      List.any_eq_false] at h
    obtain ⟨⟨rfl, hvisible⟩, hnone⟩ := h
    refine ⟨rfl, hvisible, fun pair hmem => (hopen pair).mp ?_⟩
    exact Bool.eq_false_iff.mpr (hnone pair hmem)
  · rintro ⟨rfl, hvisible, hnone⟩
    have hany : blocks.any (canOpen [] (c :: rest)) = false := by
      rw [List.any_eq_false]
      intro pair hmem
      exact Bool.eq_false_iff.mp ((hopen pair).mpr (hnone pair hmem))
    simp [exposes, hvisible, hany]

/-- A scan goes from place to place to the end of the line, and the line is code exactly if one of
the places is a visible character outside of all comments at which no opener stands.  It does not
matter how many pairs there are, in which order they come or how their delimiters overlap. -/
theorem scan_code_iff_visits (g : Grammar) (hg : g.blocks ≠ []) (depth : Depth)
    (line : List Char) :
    Place.Visits g.blocks ⟨depth, line⟩ ⟨(scan g.blocks depth line).1, []⟩ ∧
    ((scan g.blocks depth line).2 = true ↔
      ∃ c rest, Place.Visits g.blocks ⟨depth, line⟩ ⟨[], c :: rest⟩ ∧
        Text.isBlank c = false ∧
        ∀ pair ∈ g.blocks, pair.opener ≠ [] → ¬pair.opener <+: c :: rest) := by
  refine ⟨Place.visits_end_iff.mpr rfl, ?_⟩
  induction depth, line using turn_induction g.blocks with
  | done depth =>
    simp [scan_nil hg, Place.visits_nil_iff]
  | turn depth c rest ih =>
    rw [snd_scan_cons hg, Bool.or_eq_true, ih, exposes_iff]
    constructor
    · rintro (⟨rfl, hvisible, hnone⟩ | ⟨c', rest', hvisits, hexposed⟩)
      · exact ⟨c, rest, .refl, hvisible, hnone⟩
      · exact ⟨c', rest', Place.visits_cons_iff.mpr (.inr hvisits), hexposed⟩
    · rintro ⟨c', rest', hvisits, hvisible, hnone⟩
      rcases Place.visits_cons_iff.mp hvisits with hhere | hlater
      · cases hhere
        exact .inl ⟨rfl, hvisible, hnone⟩
      · exact .inr ⟨c', rest', hlater, hvisible, hnone⟩

/-- An opener that starts with another one, and a pair that cannot open. -/
theorem scan_code_iff_visits_overlapping :
    let g : Grammar :=
      { name := "A", blocks := [⟨['(', '*'], ['*', ')']⟩, ⟨['('], [')']⟩, ⟨[], []⟩] }
    g.blocks ≠ [] ∧
      (¬∃ c rest, Place.Visits g.blocks ⟨[], ['(', 'x', ')']⟩ ⟨[], c :: rest⟩ ∧
        Text.isBlank c = false ∧
        ∀ pair ∈ g.blocks, pair.opener ≠ [] → ¬pair.opener <+: c :: rest) ∧
      ∃ c rest, Place.Visits g.blocks ⟨[], ['(', 'x', ')', 'y']⟩ ⟨[], c :: rest⟩ ∧
        Text.isBlank c = false ∧
        ∀ pair ∈ g.blocks, pair.opener ≠ [] → ¬pair.opener <+: c :: rest := by
  intro g
  have hg : g.blocks ≠ [] := by decide
  refine ⟨hg, ?_, ?_⟩
  · exact (not_congr (scan_code_iff_visits g hg [] ['(', 'x', ')']).2).mp (by decide)
  · exact (scan_code_iff_visits g hg [] ['(', 'x', ')', 'y']).2.mp (by decide)

end LineCensus.Line
