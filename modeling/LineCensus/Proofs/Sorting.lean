import Mathlib.Data.List.Perm.Basic

/-!
# Sorting

What sorting does to the order of arrival: nothing of it is left where the keys are distinct, and
all of it where they are equal.
-/

namespace LineCensus.Sorting

section Order

variable {α : Type} {le : α → α → Bool}
  (htrans : ∀ a b c, le a b = true → le b c = true → le a c = true)
  (htotal : ∀ a b, (le a b || le b a) = true)

include htrans htotal

/-- Where no two entries may stand on either side of each other, the order of arrival is lost. -/
theorem mergeSort_eq_of_perm {l₁ l₂ : List α} (hperm : l₁.Perm l₂)
    (hanti : ∀ a ∈ l₁, ∀ b ∈ l₁, le a b = true → le b a = true → a = b) :
    l₁.mergeSort le = l₂.mergeSort le := by
  have hsorted : (l₁.mergeSort le).Perm (l₂.mergeSort le) :=
    ((List.mergeSort_perm l₁ le).trans hperm).trans (List.mergeSort_perm l₂ le).symm
  refine hsorted.eq_of_pairwise ?_ (List.pairwise_mergeSort htrans htotal l₁)
    (List.pairwise_mergeSort htrans htotal l₂)
  intro a b ha hb
  have ha : a ∈ l₁ := List.mem_mergeSort.mp ha
  have hb : b ∈ l₁ := hperm.mem_iff.mpr (List.mem_mergeSort.mp hb)
  exact hanti a ha b hb

/-- Entries that may stand on either side of each other keep their order. -/
theorem filter_mergeSort {p : α → Bool} (hp : ∀ a b, p a = true → p b = true → le a b = true)
    (l : List α) : (l.mergeSort le).filter p = l.filter p := by
  have hperm : ((l.mergeSort le).filter p).Perm (l.filter p) :=
    (List.mergeSort_perm l le).filter p
  have hties : (l.filter p).Pairwise fun a b => le a b = true := by
    rw [List.pairwise_filter]
    exact List.pairwise_of_forall fun a b ha hb => hp a b ha hb
  have hsub : ((l.filter p).filter p).Sublist ((l.mergeSort le).filter p) :=
    (List.sublist_mergeSort htrans htotal hties List.filter_sublist).filter p
  rw [List.filter_filter] at hsub
  simp only [Bool.and_self] at hsub
  exact (hsub.eq_of_length hperm.length_eq.symm).symm

end Order

/-! ## Sorting by a text -/

variable {α : Type} (key : α → String)

theorem key_trans (a b c : α) (hab : decide (key a ≤ key b) = true)
    (hbc : decide (key b ≤ key c) = true) : decide (key a ≤ key c) = true := by
  rw [decide_eq_true_eq] at hab hbc ⊢
  exact String.le_trans hab hbc

theorem key_total (a b : α) : (decide (key a ≤ key b) || decide (key b ≤ key a)) = true := by
  simpa using String.le_total (key a) (key b)

theorem pairwise_lt_mergeSort {l : List α} (hnodup : (l.map key).Nodup) :
    (l.mergeSort fun a b => key a ≤ key b).Pairwise fun a b => key a < key b := by
  have hle := List.pairwise_mergeSort (key_trans key) (key_total key) l
  have hne : (l.mergeSort fun a b => key a ≤ key b).Pairwise fun a b => key a ≠ key b := by
    rw [← List.pairwise_map]
    exact ((List.mergeSort_perm l _).map key).nodup_iff.mpr hnodup
  refine (hle.and hne).imp ?_
  rintro a b ⟨hab, hkeys⟩
  rw [decide_eq_true_eq] at hab
  rw [← String.not_le]
  exact fun hba => hkeys (String.le_antisymm hab hba)

theorem eq_of_pairwise_lt {l₁ l₂ : List α} (h₁ : l₁.Pairwise fun a b => key a < key b)
    (h₂ : l₂.Pairwise fun a b => key a < key b) (hmem : ∀ a, a ∈ l₁ ↔ a ∈ l₂) : l₁ = l₂ := by
  have hnodup : ∀ {l : List α}, l.Pairwise (fun a b => key a < key b) → l.Nodup := by
    intro l h
    refine h.imp ?_
    rintro a _ hlt rfl
    exact String.lt_irrefl (key a) hlt
  have hperm : l₁.Perm l₂ := (List.perm_ext_iff_of_nodup (hnodup h₁) (hnodup h₂)).mpr hmem
  refine hperm.eq_of_pairwise ?_ h₁ h₂
  intro a b _ _ hab hba
  exact absurd (String.lt_trans hab hba) (String.lt_irrefl (key a))

end LineCensus.Sorting
