import Mathlib.Data.Nat.Digits.Defs

/-!
# Decimal texts of integers

An integer is written with decimal digits, behind a sign if it is below zero.
-/

namespace LineCensus.Text

theorem toList_toString (n : Int) : (toString n).toList =
    if 0 ≤ n then Nat.toDigits 10 n.toNat else '-' :: Nat.toDigits 10 (-n).toNat := by
  rw [Int.toString_eq_repr, Int.repr_eq_if]
  split <;> simp [Nat.repr_eq_ofList_toDigits]

theorem isDigit_of_mem_toDigits {n : Nat} {c : Char} (h : c ∈ Nat.toDigits 10 n) :
    c.isDigit = true :=
  Nat.isDigit_of_mem_toDigits (by omega) (by omega) h

theorem isDigit_or_eq_of_mem_toString {n : Int} {c : Char} (h : c ∈ (toString n).toList) :
    c.isDigit = true ∨ c = '-' := by
  rw [toList_toString] at h
  split at h
  · exact .inl (isDigit_of_mem_toDigits h)
  · rcases List.mem_cons.mp h with rfl | h
    · exact .inr rfl
    · exact .inl (isDigit_of_mem_toDigits h)

theorem not_mem_toString {c : Char} (hdigit : c.isDigit = false) (hsign : c ≠ '-') (n : Int) :
    c ∉ (toString n).toList := by
  intro h
  rcases isDigit_or_eq_of_mem_toString h with hc | rfl
  · rw [hdigit] at hc
    cases hc
  · exact hsign rfl

theorem length_toString_le {n : Int} {digits : Nat} (hdigits : 0 < digits) (hn : 0 ≤ n)
    (hlt : n < 10 ^ digits) : (toString n).length ≤ digits := by
  rw [← String.length_toList, toList_toString, if_pos hn]
  apply Nat.toDigits_length 10 n.toNat digits hdigits
  zify
  rwa [Int.toNat_of_nonneg hn]

end LineCensus.Text
