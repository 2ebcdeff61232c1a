import LineCensus.Text.Utf8

/-!
# Where pieces of bytes end

A byte of ASCII never continues a character.  Whatever stands before it, well-formed or not, it is a
character of its own, and the bytes after it are read as if they stood alone.
-/

namespace LineCensus.Text.Utf8

/-! ## The character that is being read -/

/-- A character that was begun goes on with a byte above ASCII. -/
def State.Sound (s : State) : Prop :=
  ∀ p, s.pending = some p → 0x80 ≤ p.low

theorem low_of_start {b : UInt8} {p : Pending} (h : start b = .pending p) : 0x80 ≤ p.low := by
  unfold start at h
  split at h
  · cases h
  split at h
  · cases h
  split at h
  · cases h
    exact UInt8.le_refl _
  split at h
  · cases h
    dsimp only
    split <;> decide
  split at h
  · cases h
    dsimp only
    split <;> decide
  · cases h

theorem State.sound_begin (found : List Piece) (b : UInt8) : (State.begin found b).Sound := by
  intro p hp
  unfold State.begin at hp
  split at hp
  · cases hp
  · next hstart =>
    cases hp
    exact low_of_start hstart

theorem State.sound_push (s : State) (b : UInt8) : (s.push b).Sound := by
  unfold State.push
  split
  · exact State.sound_begin _ b
  · split
    · dsimp only
      split
      · exact nofun
      · intro p hp
        cases hp
        exact UInt8.le_refl _
    · exact State.sound_begin _ b

theorem State.sound_read (s : State) (hsound : s.Sound) (bytes : List UInt8) :
    (bytes.foldl State.push s).Sound := by
  induction bytes generalizing s with
  | nil => exact hsound
  | cons b rest ih => exact ih (s.push b) (s.sound_push b)

def State.cut (s : State) : List Piece :=
  match s.pending with
  | none => s.found.reverse
  | some p => (.illFormed p.read.reverse .invalidContinuation :: s.found).reverse

theorem State.filterMap_char?_cut (s : State) :
    s.cut.filterMap Piece.char? = s.finish.filterMap Piece.char? := by
  unfold State.cut State.finish
  cases s.pending with
  | none => rfl
  | some p => rw [List.filterMap_reverse, List.filterMap_reverse]; rfl

theorem begin_of_ascii (found : List Piece) {b : UInt8} (hb : b < 0x80) :
    State.begin found b = ⟨.char (Char.ofNat b.toNat) :: found, none⟩ := by
  rw [State.begin, start, if_pos hb]

theorem State.Sound.push_of_ascii {s : State} (hsound : s.Sound) {b : UInt8} (hb : b < 0x80) :
    s.push b = ⟨.char (Char.ofNat b.toNat) :: s.cut.reverse, none⟩ := by
  unfold State.push State.cut
  cases hpending : s.pending with
  | none => rw [begin_of_ascii _ hb, List.reverse_reverse]
  | some p =>
    have hlow : ¬p.low ≤ b := UInt8.not_le.mpr (UInt8.lt_of_lt_of_le hb (hsound p hpending))
    simp only [hlow, decide_false, Bool.false_and, Bool.false_eq_true, if_false]
    rw [begin_of_ascii _ hb, List.reverse_reverse]

/-! ## The pieces found before -/

theorem begin_append (found earlier : List Piece) (b : UInt8) :
    State.begin (found ++ earlier) b =
      ⟨(State.begin found b).found ++ earlier, (State.begin found b).pending⟩ := by
  unfold State.begin
  cases start b <;> rfl

theorem push_append (found earlier : List Piece) (pending : Option Pending) (b : UInt8) :
    State.push ⟨found ++ earlier, pending⟩ b =
      ⟨(State.push ⟨found, pending⟩ b).found ++ earlier,
        (State.push ⟨found, pending⟩ b).pending⟩ := by
  unfold State.push
  cases pending with
  | none => exact begin_append found earlier b
  | some p =>
    dsimp only
    split
    · split <;> rfl
    · exact begin_append (_ :: found) earlier b

theorem foldl_push_append (bytes : List UInt8) (found earlier : List Piece)
    (pending : Option Pending) :
    bytes.foldl State.push ⟨found ++ earlier, pending⟩ =
      ⟨(bytes.foldl State.push ⟨found, pending⟩).found ++ earlier,
        (bytes.foldl State.push ⟨found, pending⟩).pending⟩ := by
  induction bytes generalizing found pending with
  | nil => rfl
  | cons b rest ih => rw [List.foldl_cons, List.foldl_cons, push_append, ih]

theorem finish_append (found earlier : List Piece) (pending : Option Pending) :
    State.finish ⟨found ++ earlier, pending⟩ =
      earlier.reverse ++ State.finish ⟨found, pending⟩ := by
  unfold State.finish
  cases pending <;> simp

/-- Bytes that end with a piece have no part in how the bytes after them are cut. -/
theorem pieces_append {before : List UInt8} {found : List Piece}
    (h : before.foldl State.push {} = ⟨found, none⟩) (after : List UInt8) :
    pieces (before ++ after) = found.reverse ++ pieces after := by
  have hafter := foldl_push_append after [] found none
  rw [List.nil_append] at hafter
  rw [pieces, List.foldl_append, h, hafter, finish_append]
  rfl

theorem pieces_append_cons (before : List UInt8) {b : UInt8} (hb : b < 0x80)
    (after : List UInt8) :
    pieces (before ++ b :: after) =
      (before.foldl State.push {}).cut ++ .char (Char.ofNat b.toNat) :: pieces after := by
  have hsound := State.sound_read {} (fun _ h => nomatch h) before
  have hread : (before ++ [b]).foldl State.push {} =
      ⟨.char (Char.ofNat b.toNat) :: (before.foldl State.push {}).cut.reverse, none⟩ := by
    rw [List.foldl_append, List.foldl_cons, List.foldl_nil, hsound.push_of_ascii hb]
  rw [List.append_cons, pieces_append hread]
  simp

theorem decodeDropping_append_cons (before : List UInt8) {b : UInt8} (hb : b < 0x80)
    (after : List UInt8) :
    decodeDropping (before ++ b :: after) =
      decodeDropping before ++ Char.ofNat b.toNat :: decodeDropping after := by
  rw [decodeDropping, pieces_append_cons before hb, List.filterMap_append,
    State.filterMap_char?_cut]
  rfl

end LineCensus.Text.Utf8
