import LineCensus.Line.Scan
import Mathlib.Data.List.Basic

/-!
# One turn of a scan

What the pairs of a grammar do at one position of a line, apart from what they are told: the first
pair comes before the innermost open comment, and this before all other pairs.  Every scan is a
sequence of such turns, so `turn_induction` is the induction for all facts about scans.
-/

namespace LineCensus.Line

def turnAt (blocks : List Delimiters) (depth : Depth) (text : List Char) : Turn :=
  match blocks with
  | [] => .passes
  | first :: more =>
    if canOpen depth text first then .opens first
    else
      match depth.head?.filter (canClose text) with
      | some innermost => .closes innermost
      | none => (more.find? (canOpen depth text)).elim .passes .opens

/-! ## When a delimiter acts -/

theorem canOpen_iff {depth : Depth} {text : List Char} {pair : Delimiters} :
    canOpen depth text pair = true ↔
      pair.opener ≠ [] ∧ pair.opener <+: text ∧ (pair.opener = pair.closer → depth = []) := by
  simp only [canOpen, Delimiters.toggles, Bool.and_eq_true, Bool.not_eq_true',
    List.isEmpty_eq_false_iff, List.isPrefixOf_iff_prefix, Bool.or_eq_true, beq_eq_false_iff_ne,
    List.isEmpty_iff, and_assoc, ne_eq]
  rw [or_iff_not_imp_left, not_not]

theorem canClose_iff {text : List Char} {pair : Delimiters} :
    canClose text pair = true ↔ pair.closer ≠ [] ∧ pair.closer <+: text := by
  simp [canClose]

private theorem filter_canClose_eq_none {depth : Depth} {text : List Char}
    (h : ∀ innermost, depth.head? = some innermost → canClose text innermost = false) :
    depth.head?.filter (canClose text) = none := by
  rw [Option.filter_eq_none_iff]
  intro innermost hhead
  simp [h innermost hhead]

theorem turnAt_of_not_closing {depth : Depth} {text : List Char}
    (h : depth.head?.filter (canClose text) = none) (blocks : List Delimiters) :
    turnAt blocks depth text =
      (blocks.find? (canOpen depth text)).elim .passes .opens := by
  cases blocks with
  | nil => rfl
  | cons first more =>
    by_cases hfirst : canOpen depth text first = true
    · simp [turnAt, hfirst]
    · simp [turnAt, hfirst, h]

theorem turnAt_nil (blocks : List Delimiters) (text : List Char) :
    turnAt blocks [] text = (blocks.find? (canOpen [] text)).elim .passes .opens :=
  turnAt_of_not_closing rfl blocks

/-- All that a turn can be: a pair of the grammar opens a comment at its opener, or the innermost
comment ends at its closer, or no delimiter is taken. -/
theorem turnAt_cases (blocks : List Delimiters) (depth : Depth) (text : List Char) :
    (∃ pair ∈ blocks, canOpen depth text pair = true ∧
      turnAt blocks depth text = .opens pair) ∨
    (∃ innermost outer, depth = innermost :: outer ∧ canClose text innermost = true ∧
      turnAt blocks depth text = .closes innermost) ∨
    turnAt blocks depth text = .passes := by
  cases blocks with
  | nil => exact .inr (.inr rfl)
  | cons first more =>
    by_cases hfirst : canOpen depth text first = true
    · exact .inl ⟨first, by simp, hfirst, by simp [turnAt, hfirst]⟩
    cases hfilter : depth.head?.filter (canClose text) with
    | some innermost =>
      obtain ⟨hhead, hclose⟩ := Option.filter_eq_some_iff.mp hfilter
      obtain ⟨outer, rfl⟩ := List.head?_eq_some_iff.mp hhead
      exact .inr (.inl ⟨innermost, outer, rfl, hclose, by rw [turnAt, if_neg hfirst, hfilter]⟩)
    | none =>
      rw [turnAt_of_not_closing hfilter]
      cases hfind : (first :: more).find? (canOpen depth text) with
      | none => exact .inr (.inr rfl)
      | some pair =>
        exact .inl ⟨pair, List.mem_of_find?_eq_some hfind, List.find?_some hfind, rfl⟩

/-! ## Which turn is taken -/

theorem turnAt_eq_opens {blocks : List Delimiters} {depth : Depth} {text : List Char}
    {pair : Delimiters} (hmem : pair ∈ blocks) (hopen : canOpen depth text pair = true)
    (honly : ∀ other ∈ blocks, canOpen depth text other = true → other = pair)
    (hclose : ∀ innermost, depth.head? = some innermost → canClose text innermost = false) :
    turnAt blocks depth text = .opens pair := by
  have hfilter := filter_canClose_eq_none hclose
  obtain ⟨found, hfind⟩ := Option.isSome_iff_exists.mp
    (List.find?_isSome.mpr ⟨pair, hmem, hopen⟩)
  have hfound : found = pair :=
    honly found (List.mem_of_find?_eq_some hfind) (List.find?_some hfind)
  rw [turnAt_of_not_closing hfilter, hfind, hfound]
  rfl

theorem turnAt_eq_closes {blocks : List Delimiters} {depth : Depth} {text : List Char}
    {innermost : Delimiters} (hne : blocks ≠ [])
    (hfirst : ∀ first, blocks.head? = some first →
      canOpen (innermost :: depth) text first = false)
    (hclose : canClose text innermost = true) :
    turnAt blocks (innermost :: depth) text = .closes innermost := by
  cases blocks with
  | nil => exact absurd rfl hne
  | cons first more => simp [turnAt, hfirst first rfl, hclose, Option.filter]

theorem turnAt_eq_passes {blocks : List Delimiters} {depth : Depth} {text : List Char}
    (hopen : ∀ pair ∈ blocks, canOpen depth text pair = false)
    (hclose : ∀ innermost, depth.head? = some innermost → canClose text innermost = false) :
    turnAt blocks depth text = .passes := by
  have hfilter := filter_canClose_eq_none hclose
  have hfind : blocks.find? (canOpen depth text) = none := by
    rw [List.find?_eq_none]
    intro pair hmem
    simp [hopen pair hmem]
  rw [turnAt_of_not_closing hfilter, hfind]
  rfl

theorem forall_of_turnAt_eq_passes {blocks : List Delimiters} {depth : Depth} {text : List Char}
    (hne : blocks ≠ []) (h : turnAt blocks depth text = .passes) :
    (∀ pair ∈ blocks, canOpen depth text pair = false) ∧
      ∀ innermost, depth.head? = some innermost → canClose text innermost = false := by
  have hfilter : depth.head?.filter (canClose text) = none := by
    cases blocks with
    | nil => exact absurd rfl hne
    | cons first more =>
      rw [turnAt] at h
      split at h
      · cases h
      · split at h
        · cases h
        · assumption
  rw [turnAt_of_not_closing hfilter] at h
  constructor
  · intro pair hpair
    cases hfind : blocks.find? (canOpen depth text) with
    | some found =>
      rw [hfind] at h
      cases h
    | none => exact Bool.eq_false_iff.mpr (List.find?_eq_none.mp hfind pair hpair)
  · intro innermost hhead
    exact Bool.eq_false_iff.mpr (Option.filter_eq_none_iff.mp hfilter innermost hhead)

/-- Of the text a turn sees only which pairs can open there, and whether the innermost comment can
be closed. -/
theorem turnAt_congr {blocks : List Delimiters} {depth : Depth} {text text' : List Char}
    (hopen : ∀ pair ∈ blocks, canOpen depth text pair = canOpen depth text' pair)
    (hclose : ∀ innermost, depth.head? = some innermost →
      canClose text innermost = canClose text' innermost) :
    turnAt blocks depth text = turnAt blocks depth text' := by
  have hfilter : depth.head?.filter (canClose text) = depth.head?.filter (canClose text') := by
    cases hhead : depth.head? with
    | none => rfl
    | some innermost => simp [Option.filter, hclose innermost hhead]
  cases blocks with
  | nil => rfl
  | cons first more =>
    obtain ⟨hfirst, hmore⟩ := List.forall_mem_cons.mp hopen
    have hfind : more.find? (canOpen depth text) = more.find? (canOpen depth text') := by
      rw [← List.head?_filter, List.filter_congr hmore, List.head?_filter]
    rw [turnAt, turnAt, hfirst, hfilter, hfind]

/-! ## Induction on the turns -/

/-- A statement on scans holds if it holds at the end of the text, and at a position once it
holds after the turn taken there. -/
@[elab_as_elim]
theorem turn_induction (blocks : List Delimiters) {motive : Depth → List Char → Prop}
    (done : ∀ depth, motive depth [])
    (turn : ∀ depth c rest,
      motive ((turnAt blocks depth (c :: rest)).after depth)
        (rest.drop (turnAt blocks depth (c :: rest)).extra) →
      motive depth (c :: rest))
    (depth : Depth) (text : List Char) : motive depth text := by
  match text with
  | [] => exact done depth
  | c :: rest => exact turn depth c rest (turn_induction blocks done turn _ _)
termination_by text.length
decreasing_by
  rw [List.length_drop, List.length_cons]
  omega

/-! ## Turns and witnesses -/

theorem fst_tryPairs (depth : Depth) (c : Char) (rest : List Char) (seen : List Witness) :
    (tryPairs depth c rest seen).1 = turnAt (seen.map Witness.pair) depth (c :: rest) := by
  fun_induction tryPairs depth c rest seen with
  | case1 => rfl
  | case2 w more hopen => simp [turnAt, hopen]
  | case3 w more hopen innermost outer hdepth hclose =>
    subst hdepth
    simp [turnAt, hopen, hclose, Option.filter]
  | case4 w more hopen innermost outer hdepth hclose turn told htry ih =>
    subst hdepth
    have hfilter : (innermost :: outer).head?.filter (canClose (c :: rest)) = none := by
      simp [Option.filter, hclose]
    rw [turnAt_of_not_closing hfilter] at ih ⊢
    simp [hopen, ih]
  | case5 w more hopen hdepth turn told htry ih =>
    subst hdepth
    rw [turnAt_nil] at ih ⊢
    simp [hopen, ih]

theorem map_pair_tryPairs (depth : Depth) (c : Char) (rest : List Char) (seen : List Witness) :
    (tryPairs depth c rest seen).2.map Witness.pair = seen.map Witness.pair := by
  fun_induction tryPairs depth c rest seen with
  | case1 => rfl
  | case2 => rfl
  | case3 => rfl
  | case4 w more hopen innermost outer hdepth hclose turn told htry ih =>
    subst hdepth
    rw [List.map_cons, List.map_cons, ih]
  | case5 w more hopen hdepth turn told htry ih =>
    subst hdepth
    rw [List.map_cons, List.map_cons, ih]

theorem snd_tryPairs_eq_self {depth : Depth} {c : Char}
    (h : depth ≠ [] ∨ Text.isBlank c = true) (rest : List Char) (seen : List Witness) :
    (tryPairs depth c rest seen).2 = seen := by
  fun_induction tryPairs depth c rest seen with
  | case1 => rfl
  | case2 => rfl
  | case3 => rfl
  | case4 w more hopen innermost outer hdepth hclose turn told htry ih =>
    subst hdepth
    rw [ih]
  | case5 w more hopen hdepth turn told htry ih =>
    subst hdepth
    have hblank : Text.isBlank c = true := by simpa using h
    simp [ih, hblank]

private theorem tryPairs_outside {c : Char} {rest : List Char} {w : Witness}
    (h : ¬canOpen [] (c :: rest) w.pair = true) (more : List Witness) :
    tryPairs [] c rest (w :: more) =
      ((tryPairs [] c rest more).1,
        { w with visible := w.visible || !Text.isBlank c } :: (tryPairs [] c rest more).2) := by
  simp [tryPairs, h]

/-- Only the first pairs have seen something: a pair has seen a visible character only if all
pairs before it have. -/
def Descending (seen : List Witness) : Prop :=
  seen.Pairwise fun earlier later => later.visible = true → earlier.visible = true

theorem descending_fresh (blocks : List Delimiters) :
    Descending (blocks.map ({ pair := · } : Delimiters → Witness)) := by
  rw [Descending, List.pairwise_map]
  exact List.pairwise_of_forall fun _ _ h => h

theorem map_pair_fresh (blocks : List Delimiters) :
    (blocks.map ({ pair := · } : Delimiters → Witness)).map Witness.pair = blocks := by
  simp [Function.comp_def]

theorem all_visible_fresh {blocks : List Delimiters} (hne : blocks ≠ []) :
    (blocks.map ({ pair := · } : Delimiters → Witness)).all Witness.visible = false := by
  cases blocks with
  | nil => exact absurd rfl hne
  | cons pair more => rfl

/-- Whether the text starts with a visible character outside of comments and in front of no
opener. -/
def exposes (blocks : List Delimiters) (depth : Depth) : List Char → Bool
  | [] => false
  | c :: rest => depth.isEmpty && !Text.isBlank c && !blocks.any (canOpen depth (c :: rest))

theorem exposes_eq_false {depth : Depth} {c : Char}
    (h : depth ≠ [] ∨ Text.isBlank c = true) (blocks : List Delimiters) (rest : List Char) :
    exposes blocks depth (c :: rest) = false := by
  rcases h with h | h <;> simp [exposes, h]

theorem descending_tryPairs {seen : List Witness} (h : Descending seen) (depth : Depth)
    (c : Char) (rest : List Char) : Descending (tryPairs depth c rest seen).2 := by
  by_cases hquiet : depth ≠ [] ∨ Text.isBlank c = true
  · rwa [snd_tryPairs_eq_self hquiet]
  · obtain ⟨rfl, hvisible⟩ : depth = [] ∧ Text.isBlank c = false := by simpa using hquiet
    induction seen with
    | nil => exact h
    | cons w more ih =>
      by_cases hopen : canOpen [] (c :: rest) w.pair = true
      · simpa [tryPairs, hopen] using h
      · have htail : Descending (tryPairs [] c rest more).2 := ih (List.pairwise_cons.mp h).2
        simpa [tryPairs, hopen, hvisible, Descending] using htail

/-- After a turn every pair has seen a visible character if every pair had before, or if the
turn passes a visible character outside of comments. -/
theorem all_visible_tryPairs {seen : List Witness} (hne : seen ≠ []) (h : Descending seen)
    (depth : Depth) (c : Char) (rest : List Char) :
    (tryPairs depth c rest seen).2.all Witness.visible =
      (seen.all Witness.visible || exposes (seen.map Witness.pair) depth (c :: rest)) := by
  by_cases hquiet : depth ≠ [] ∨ Text.isBlank c = true
  · rw [snd_tryPairs_eq_self hquiet, exposes_eq_false hquiet, Bool.or_false]
  · obtain ⟨rfl, hvisible⟩ : depth = [] ∧ Text.isBlank c = false := by simpa using hquiet
    induction seen with
    | nil => exact absurd rfl hne
    | cons w more ih =>
      by_cases hopen : canOpen [] (c :: rest) w.pair = true
      · simp [tryPairs, exposes, hopen]
      · obtain ⟨hw, hmore⟩ := List.pairwise_cons.mp h
        by_cases hlast : more = []
        · simp [tryPairs, exposes, hopen, hvisible, hlast]
        · -- a later pair that has seen something vouches for the first one
          have hall : more.all Witness.visible = true → w.visible = true := by
            intro hseen
            obtain ⟨later, hlater⟩ := List.exists_mem_of_ne_nil more hlast
            exact hw later hlater (List.all_eq_true.mp hseen later hlater)
          rw [tryPairs_outside hopen, List.all_cons, ih hlast hmore]
          cases hseen : more.all Witness.visible with
          | true => simp [hvisible, hseen, hall hseen]
          | false => simp [exposes, hvisible, hopen, hseen]

end LineCensus.Line
