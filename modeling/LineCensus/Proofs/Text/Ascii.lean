import LineCensus.Proofs.Text.Utf8
import Mathlib.Algebra.Group.Nat.Defs
import Mathlib.Data.List.Induction

/-!
# Characters of ASCII in bytes

A character that takes several bytes is none of ASCII, whatever the bytes are, and what is
ill-formed stands for none.  So a text that is read from bytes holds the characters of ASCII that
are among the bytes, in the same places, and a separator of ASCII cuts the text where it cuts the
bytes.
-/

namespace LineCensus.Text.Utf8

/-! ## Characters of several bytes -/

def Pending.least (p : Pending) : Nat :=
  (p.value * 64 + p.low.toNat % 64) * 64 ^ p.missing

def Pending.above (p : Pending) : Nat :=
  (p.value * 64 + p.high.toNat % 64 + 1) * 64 ^ p.missing

/-- However the character goes on, it has a number of its own, which is none of ASCII. -/
structure Pending.Wide (p : Pending) : Prop where
  low : 0x80 ≤ p.low.toNat
  high : p.high.toNat ≤ 0xbf
  least : 0x80 ≤ p.least
  valid : p.above ≤ 0xd800 ∨ 0xe000 ≤ p.least ∧ p.above ≤ 0x110000

namespace Pending

/-- Where any byte above ASCII may continue the character, the number only has to be great enough
and no surrogate. -/
theorem wide_open {read : List UInt8} {value missing : Nat}
    (hleast : 0x80 ≤ value * 64 ^ (missing + 1))
    (hvalid : (value + 1) * 64 ^ (missing + 1) ≤ 0xd800 ∨
      0xe000 ≤ value * 64 ^ (missing + 1) ∧ (value + 1) * 64 ^ (missing + 1) ≤ 0x110000) :
    Wide ⟨read, value, missing, 0x80, 0xbf⟩ := by
  have heq : least ⟨read, value, missing, 0x80, 0xbf⟩ = value * 64 ^ (missing + 1) := by
    rw [Nat.pow_succ', ← Nat.mul_assoc]
    simp [least]
  have heq' : above ⟨read, value, missing, 0x80, 0xbf⟩ = (value + 1) * 64 ^ (missing + 1) := by
    rw [Nat.pow_succ', ← Nat.mul_assoc, Nat.add_mul]
    simp [above, Nat.add_assoc]
  refine ⟨Nat.le_refl 0x80, Nat.le_refl 0xbf, ?_, ?_⟩
  · rwa [heq]
  · rwa [heq, heq']

theorem wide_of_start {b : UInt8} {p : Pending} (h : start b = .pending p) : p.Wide := by
  simp only [start, UInt8.lt_iff_toNat_lt, UInt8.reduceToNat] at h
  split at h
  · cases h
  split at h
  · cases h
  split at h
  · cases h
    apply wide_open <;> omega
  split at h
  · cases h
    by_cases hlow : b = 0xe0
    · subst hlow
      exact ⟨by decide, by decide, by decide, by decide⟩
    by_cases hhigh : b = 0xed
    · subst hhigh
      exact ⟨by decide, by decide, by decide, by decide⟩
    · rw [if_neg hlow, if_neg hhigh]
      simp only [← UInt8.toNat_inj, UInt8.reduceToNat] at hlow hhigh
      apply wide_open <;> omega
  split at h
  · cases h
    by_cases hlow : b = 0xf0
    · subst hlow
      exact ⟨by decide, by decide, by decide, by decide⟩
    by_cases hhigh : b = 0xf4
    · subst hhigh
      exact ⟨by decide, by decide, by decide, by decide⟩
    · rw [if_neg hlow, if_neg hhigh]
      simp only [← UInt8.toNat_inj, UInt8.reduceToNat] at hlow hhigh
      apply wide_open <;> omega
  · cases h

section Next

variable {p : Pending} (hp : p.Wide) {b : UInt8} (hlow : p.low ≤ b) (hhigh : b ≤ p.high)

include hp hlow hhigh

theorem Wide.narrow :
    p.least ≤ (p.value * 64 + b.toNat % 64) * 64 ^ p.missing ∧
      (p.value * 64 + b.toNat % 64 + 1) * 64 ^ p.missing ≤ p.above := by
  have hbounds := And.intro hp.low hp.high
  rw [UInt8.le_iff_toNat_le] at hlow hhigh
  constructor
  · apply Nat.mul_le_mul_right
    omega
  · apply Nat.mul_le_mul_right
    omega

theorem Wide.next (hmore : p.missing ≠ 0) :
    Wide ⟨b :: p.read, p.value * 64 + b.toNat % 64, p.missing - 1, 0x80, 0xbf⟩ := by
  obtain ⟨hleast, habove⟩ := hp.narrow hlow hhigh
  have hnumber := And.intro hp.least hp.valid
  have hmissing : p.missing - 1 + 1 = p.missing := Nat.succ_pred_eq_of_ne_zero hmore
  apply wide_open
  · rw [hmissing]
    omega
  · rw [hmissing]
    omega

theorem Wide.last (hlast : p.missing = 0) :
    0x80 ≤ (Char.ofNat (p.value * 64 + b.toNat % 64)).toNat := by
  obtain ⟨hleast, habove⟩ := hp.narrow hlow hhigh
  rw [hlast, Nat.pow_zero, Nat.mul_one] at hleast habove
  have hvalid : (p.value * 64 + b.toNat % 64).isValidChar := by
    have hnumber := hp.valid
    unfold Nat.isValidChar
    omega
  rw [Char.ofNat, dif_pos hvalid]
  exact Nat.le_trans hp.least hleast

end Next

end Pending

/-! ## What a byte adds -/

/-- The pieces that a byte adds to those found before it, if it does not leave a character begun. -/
structure Adds (found : List Piece) (b : UInt8) (after : State) : Prop where
  wide : ∀ p, after.pending = some p → p.Wide
  found : ∃ added, after.found = added ++ found ∧ (after.pending = none → added ≠ []) ∧
    ∀ c, .char c ∈ added → c.toNat < 0x80 → c.toNat = b.toNat

theorem toNat_ofNat_of_ascii {b : UInt8} (hb : b < 0x80) :
    (Char.ofNat b.toNat).toNat = b.toNat := by
  have hvalid : b.toNat.isValidChar := by
    rw [UInt8.lt_iff_toNat_lt] at hb
    exact .inl (Nat.lt_trans hb (by decide))
  rw [Char.ofNat, dif_pos hvalid]
  rfl

theorem toNat_of_start {b : UInt8} {c : Char} (h : start b = .whole (.char c)) :
    c.toNat = b.toNat := by
  simp only [start] at h
  split at h
  · next hb =>
    cases h
    exact toNat_ofNat_of_ascii hb
  · (repeat' split at h) <;> cases h

theorem adds_begin (found : List Piece) (b : UInt8) : Adds found b (State.begin found b) := by
  unfold State.begin
  cases hstart : start b with
  | whole piece =>
    refine ⟨nofun, [piece], rfl, by simp, fun c hc _ => ?_⟩
    rw [← List.mem_singleton.mp hc] at hstart
    exact toNat_of_start hstart
  | pending p =>
    refine ⟨?_, [], rfl, nofun, by simp⟩
    rintro _ ⟨⟩
    exact Pending.wide_of_start hstart

theorem adds_push {s : State} (hs : ∀ p, s.pending = some p → p.Wide) (b : UInt8) :
    Adds s.found b (s.push b) := by
  obtain ⟨found, pending⟩ := s
  unfold State.push
  cases pending with
  | none => exact adds_begin found b
  | some p =>
    have hwide := hs p rfl
    simp only [Bool.and_eq_true, decide_eq_true_eq]
    split
    · next hbounds =>
      obtain ⟨hlow, hhigh⟩ := hbounds
      split
      · next hlast =>
        refine ⟨nofun, [_], rfl, by simp, fun c hc hascii => ?_⟩
        have habove := hwide.last hlow hhigh hlast
        cases List.mem_singleton.mp hc
        omega
      · next hmore =>
        refine ⟨?_, [], rfl, nofun, by simp⟩
        rintro _ ⟨⟩
        exact hwide.next hlow hhigh hmore
    · -- the character that was begun is a piece of its own, in front of what the byte begins
      let cut := Piece.illFormed p.read.reverse .invalidContinuation
      obtain ⟨hnext, added, hfound, hne, hascii⟩ := adds_begin (cut :: found) b
      refine ⟨hnext, added ++ [cut], ?_, by simp, fun c hc => hascii c (by simpa [cut] using hc)⟩
      rw [hfound, List.append_assoc, List.singleton_append]

theorem wide_read (bytes : List UInt8) :
    ∀ p, (bytes.foldl State.push {}).pending = some p → p.Wide := by
  induction bytes using List.reverseRecOn with
  | nil => exact nofun
  | append_singleton bytes b ih =>
    rw [List.foldl_append]
    exact (adds_push ih b).wide

theorem adds_concat (bytes : List UInt8) (b : UInt8) :
    Adds (bytes.foldl State.push {}).found b ((bytes ++ [b]).foldl State.push {}) := by
  rw [List.foldl_append]
  exact adds_push (wide_read bytes) b

/-! ## Pieces and bytes -/

theorem char_mem_finish_iff {s : State} {c : Char} : .char c ∈ s.finish ↔ .char c ∈ s.found := by
  unfold State.finish
  cases s.pending <;> simp

theorem exists_byte_of_mem_pieces {bytes : List UInt8} {c : Char} (hc : c.toNat < 0x80)
    (h : .char c ∈ pieces bytes) : ∃ b ∈ bytes, c.toNat = b.toNat := by
  rw [pieces, char_mem_finish_iff] at h
  induction bytes using List.reverseRecOn with
  | nil => exact absurd h List.not_mem_nil
  | append_singleton bytes b ih =>
    obtain ⟨-, added, hfound, -, hascii⟩ := adds_concat bytes b
    rw [hfound, List.mem_append] at h
    rcases h with hnew | hold
    · exact ⟨b, by simp, hascii c hnew hc⟩
    · obtain ⟨earlier, hmem, hnumber⟩ := ih hold
      exact ⟨earlier, List.mem_append_left _ hmem, hnumber⟩

theorem exists_getLast?_pieces (bytes : List UInt8) (b : UInt8) :
    ∃ piece, (pieces (bytes ++ [b])).getLast? = some piece ∧
      ∀ c, piece = .char c → c.toNat < 0x80 → c.toNat = b.toNat := by
  obtain ⟨-, added, hfound, hne, hascii⟩ := adds_concat bytes b
  unfold pieces State.finish
  generalize (bytes ++ [b]).foldl State.push {} = after at hfound hne ⊢
  cases hpending : after.pending with
  | some p => exact ⟨.illFormed p.read.reverse .truncated, by simp, nofun⟩
  | none =>
    obtain ⟨piece, more, hadded⟩ := List.exists_cons_of_ne_nil (hne hpending)
    refine ⟨piece, by rw [List.getLast?_reverse, hfound, hadded, List.cons_append, List.head?_cons],
      ?_⟩
    rintro c rfl hc
    exact hascii c (by simp [hadded]) hc

/-! ## Text in which what is ill-formed is replaced -/

theorem State.map_orReplacement_cut (s : State) :
    s.cut.map Piece.orReplacement = s.finish.map Piece.orReplacement := by
  unfold State.cut State.finish
  cases s.pending with
  | none => rfl
  | some p => rw [List.map_reverse, List.map_reverse]; rfl

/-- Text in which what is ill-formed is replaced can be put together at a byte of ASCII. -/
theorem decodeReplacing_append_cons (before : List UInt8) {b : UInt8} (hb : b < 0x80)
    (after : List UInt8) :
    decodeReplacing (before ++ b :: after) =
      decodeReplacing before ++ Char.ofNat b.toNat :: decodeReplacing after := by
  rw [decodeReplacing, pieces_append_cons before hb, List.map_append,
    State.map_orReplacement_cut]
  rfl

theorem eq_char_of_orReplacement {piece : Piece} {c : Char} (hc : c.toNat < 0x80)
    (h : piece.orReplacement = c) : piece = .char c := by
  cases piece with
  | char d => exact congrArg Piece.char h
  | illFormed bytes fault =>
    subst h
    exact absurd hc (Nat.not_lt.mpr (by decide : 0x80 ≤ '\ufffd'.toNat))

section Ascii

variable {b : UInt8} (hb : b < 0x80)

include hb

theorem isAscii_ofNat : (Char.ofNat b.toNat).toNat < 0x80 := by
  rw [toNat_ofNat_of_ascii hb]
  exact UInt8.lt_iff_toNat_lt.mp hb

theorem mem_of_mem_decodeReplacing {bytes : List UInt8}
    (h : Char.ofNat b.toNat ∈ decodeReplacing bytes) : b ∈ bytes := by
  have hascii := isAscii_ofNat hb
  obtain ⟨piece, hpiece, hchar⟩ := List.mem_map.mp h
  rw [eq_char_of_orReplacement hascii hchar] at hpiece
  obtain ⟨byte, hbyte, hsame⟩ := exists_byte_of_mem_pieces hascii hpiece
  rw [toNat_ofNat_of_ascii hb, UInt8.toNat_inj] at hsame
  rwa [hsame]

theorem getLast?_decodeReplacing_iff (bytes : List UInt8) :
    (decodeReplacing bytes).getLast? = some (Char.ofNat b.toNat) ↔ bytes.getLast? = some b := by
  constructor
  · intro h
    have hascii := isAscii_ofNat hb
    rcases List.eq_nil_or_concat bytes with rfl | ⟨before, byte, rfl⟩
    · cases h
    · obtain ⟨piece, hlast, hbyte⟩ := exists_getLast?_pieces before byte
      rw [List.concat_eq_append, decodeReplacing, List.getLast?_map, hlast, Option.map_some,
        Option.some_inj] at h
      have hsame := hbyte _ (eq_char_of_orReplacement hascii h) hascii
      rw [toNat_ofNat_of_ascii hb, UInt8.toNat_inj] at hsame
      rw [List.concat_eq_append, List.getLast?_concat, hsame]
  · intro h
    obtain ⟨before, rfl⟩ := List.getLast?_eq_some_iff.mp h
    rw [decodeReplacing_append_cons before hb]
    exact List.getLast?_concat

/-- A separator of ASCII cuts the text where it cuts the bytes. -/
theorem splitOn_decodeReplacing (bytes : List UInt8) :
    (decodeReplacing bytes).splitOn (Char.ofNat b.toNat) =
      (bytes.splitOn b).map decodeReplacing := by
  by_cases hmem : b ∈ bytes
  · obtain ⟨before, after, heq, hbefore⟩ := List.eq_append_cons_of_mem hmem
    have hshorter : after.length < bytes.length := by
      rw [heq, List.length_append, List.length_cons]
      omega
    rw [heq, decodeReplacing_append_cons before hb,
      List.splitOn_append_cons_self_of_not_mem (fun h => hbefore (mem_of_mem_decodeReplacing hb h)),
      List.splitOn_append_cons_self_of_not_mem hbefore, splitOn_decodeReplacing after,
      List.map_cons]
  · rw [List.splitOn_eq_singleton hmem,
      List.splitOn_eq_singleton fun h => hmem (mem_of_mem_decodeReplacing hb h)]
    rfl
termination_by bytes.length

end Ascii

@[simp] theorem decodeReplacing_eq_nil_iff {bytes : List UInt8} :
    decodeReplacing bytes = [] ↔ bytes = [] := by
  constructor
  · intro h
    rcases List.eq_nil_or_concat bytes with rfl | ⟨before, byte, rfl⟩
    · rfl
    · obtain ⟨piece, hlast, -⟩ := exists_getLast?_pieces before byte
      rw [decodeReplacing, List.map_eq_nil_iff, List.concat_eq_append] at h
      rw [h] at hlast
      cases hlast
  · rintro rfl
    rfl

end LineCensus.Text.Utf8
