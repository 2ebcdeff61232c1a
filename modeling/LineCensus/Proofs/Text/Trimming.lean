import LineCensus.Text.Blank
import Mathlib.Data.List.DropRight
import Mathlib.Data.List.Infix

/-!
# White space around a text

What is left of a text without the white space around it starts with a visible character.  Either
end can be trimmed first.  What a text starts with is what it starts with after its end is trimmed
as well, unless it reaches into the white space there.
-/

namespace LineCensus.Text

variable {s start tail rest : List Char} {c : Char}

/-! ## The first character -/

theorem isBlank_of_trimStart (h : trimStart s = c :: rest) : isBlank c = false := by
  have hhead := List.head?_dropWhile_not isBlank s
  rw [← trimStart, h] at hhead
  simpa using hhead

theorem trim_prefix_trimStart (s : List Char) : trim s <+: trimStart s :=
  List.rdropWhile_prefix isBlank (trimStart s)

theorem isBlank_of_trim (h : trim s = c :: rest) : isBlank c = false := by
  obtain ⟨more, hmore⟩ := trim_prefix_trimStart s
  rw [h, List.cons_append] at hmore
  exact isBlank_of_trimStart hmore.symm

/-! ## Either end first -/

theorem trimStart_cons_of_visible (h : isBlank c = false) (rest : List Char) :
    trimStart (c :: rest) = c :: rest :=
  List.dropWhile_cons_of_neg (by simp [h])

theorem trimEnd_cons (c : Char) (rest : List Char) :
    trimEnd (c :: rest) = if isBlank c ∧ trimEnd rest = [] then [] else c :: trimEnd rest := by
  simp only [trimEnd, List.reverse_cons, List.dropWhile_append, List.reverse_eq_nil_iff,
    List.isEmpty_iff]
  cases hblank : isBlank c <;> split <;> simp [*]

theorem trimEnd_cons_of_visible (h : isBlank c = false) (rest : List Char) :
    trimEnd (c :: rest) = c :: trimEnd rest := by
  simp [trimEnd_cons, h]

theorem trimStart_trimEnd (s : List Char) : trimStart (trimEnd s) = trim s := by
  induction s with
  | nil => rfl
  | cons c rest ih =>
    cases hblank : isBlank c with
    | false =>
      rw [trimEnd_cons_of_visible hblank, trimStart_cons_of_visible hblank, trim,
        trimStart_cons_of_visible hblank, trimEnd_cons_of_visible hblank]
    | true =>
      have hstart : ∀ more, trimStart (c :: more) = trimStart more :=
        fun more => List.dropWhile_cons_of_pos hblank
      rw [trim, hstart, ← trim, ← ih, trimEnd_cons]
      split
      · next hrest => rw [hrest.2]
      · rw [hstart]

theorem trimEnd_trim (s : List Char) : trimEnd (trim s) = trim s :=
  List.rdropWhile_idempotent isBlank (trimStart s)

theorem trimStart_trim (s : List Char) : trimStart (trim s) = trim s := by
  rw [← trimStart_trimEnd]
  exact List.dropWhile_idempotent isBlank (trimEnd s)

theorem trim_trim (s : List Char) : trim (trim s) = trim s := by
  rw [trim, trimStart_trim, trimEnd_trim]

theorem trim_infix (s : List Char) : trim s <:+: s :=
  (trim_prefix_trimStart s).isInfix.trans (List.dropWhile_suffix isBlank).isInfix

theorem trimEnd_of_suffix (hs : trimEnd s = s) (h : rest <:+ s) : trimEnd rest = rest := by
  obtain ⟨front, rfl⟩ := h
  have hlast := List.rdropWhile_eq_self_iff.mp hs
  refine List.rdropWhile_eq_self_iff.mpr fun hne => ?_
  have hvisible := hlast (List.append_ne_nil_of_right_ne_nil front hne)
  rwa [List.getLast_append_of_ne_nil _ hne] at hvisible

theorem trim_cons_of_visible (h : isBlank c = false) (s : List Char) :
    trim (c :: s) = c :: trimEnd s := by
  rw [trim, trimStart_cons_of_visible h, trimEnd_cons_of_visible h]

/-! ## What a text starts with -/

theorem trimEnd_append_of_blank (h : ∀ c ∈ tail, isBlank c = true) (s : List Char) :
    trimEnd (s ++ tail) = trimEnd s := by
  rw [trimEnd, List.reverse_append, List.dropWhile_append_of_pos, ← trimEnd]
  exact fun c hc => h c (List.mem_reverse.mp hc)

theorem exists_trim_eq_cons (h : c :: start <+: trimStart s) : ∃ more, trim s = c :: more := by
  obtain ⟨tail, htail⟩ := h
  rw [List.cons_append] at htail
  refine ⟨trimEnd (start ++ tail), ?_⟩
  rw [trim, ← htail, trimEnd_cons_of_visible (isBlank_of_trimStart htail.symm)]

/-- What the text starts with is kept by trimming the end, or no more is left than it holds
without the white space at its own end. -/
theorem prefix_trim_or (h : start <+: trimStart s) : start <+: trim s ∨ trim s = trimEnd start := by
  rcases List.prefix_or_prefix_of_prefix h (trim_prefix_trimStart s) with hkept | ⟨tail, htail⟩
  · exact .inl hkept
  · right
    have hwhole : trim s ++ (trimStart s).rtakeWhile isBlank = trimStart s :=
      List.rdropWhile_append_rtakeWhile
    have hwithin : tail <+: (trimStart s).rtakeWhile isBlank := by
      rw [← hwhole, ← htail] at h
      exact (List.prefix_append_right_inj _).mp h
    have hblank : ∀ c ∈ tail, isBlank c = true :=
      fun c hc => List.mem_rtakeWhile_imp (hwithin.subset hc)
    rw [← htail, trimEnd_append_of_blank hblank]
    exact (List.rdropWhile_idempotent isBlank (trimStart s)).symm

end LineCensus.Text
