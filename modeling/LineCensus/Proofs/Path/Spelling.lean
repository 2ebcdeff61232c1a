import LineCensus.Path

/-!
# Paths and their spellings

The text of a path spells the path: no two paths whose components say something have one text.
-/

namespace LineCensus

def IsComponent (s : String) : Prop :=
  s ≠ "" ∧ s ≠ "." ∧ '/' ∉ s.toList

instance : DecidablePred IsComponent := fun s =>
  inferInstanceAs (Decidable (s ≠ "" ∧ s ≠ "." ∧ '/' ∉ s.toList))

namespace Path

def Proper (p : Path) : Prop :=
  ∀ part ∈ p.parts, IsComponent part

theorem proper_ofString (s : String) : (ofString s).Proper := by
  intro part hpart
  rw [ofString, meaningful, List.mem_filter] at hpart
  obtain ⟨hmem, hne⟩ := hpart
  obtain ⟨chars, hchars, rfl⟩ := List.mem_map.mp hmem
  simp only [Bool.and_eq_true, bne_iff_ne] at hne
  refine ⟨hne.1, hne.2, ?_⟩
  rw [String.toList_ofList]
  exact Text.not_mem_of_mem_splitAt hchars

/-! ## Reading the text of a path -/

theorem meaningful_eq_self {parts : List String} (h : ∀ part ∈ parts, IsComponent part) :
    meaningful parts = parts := by
  rw [meaningful, List.filter_eq_self]
  intro part hpart
  obtain ⟨hne, hdot, -⟩ := h part hpart
  simp [hne, hdot]

theorem split_intercalate {parts : List String} (hne : parts ≠ [])
    (h : ∀ part ∈ parts, IsComponent part) :
    Text.split '/' ("/".intercalate parts) = parts :=
  Text.split_intercalate hne fun part hpart => (h part hpart).2.2

theorem meaningful_split_intercalate {parts : List String}
    (h : ∀ part ∈ parts, IsComponent part) :
    meaningful (Text.split '/' ("/".intercalate parts)) = parts := by
  by_cases hne : parts = []
  · subst hne
    rfl
  · rw [split_intercalate hne h, meaningful_eq_self h]

theorem split_slash_append (s : String) :
    Text.split '/' ("/" ++ s) = "" :: Text.split '/' s := by
  rw [Text.split, Text.split, String.toList_append, Text.splitAt_eq_splitOn,
    Text.splitAt_eq_splitOn]
  show (('/' :: s.toList).splitOn '/').map String.ofList = _
  rw [List.splitOn_cons_eq_if_modifyHead]
  rfl

theorem meaningful_empty_cons (parts : List String) :
    meaningful ("" :: parts) = meaningful parts := rfl

theorem head?_intercalate {parts : List String} (h : ∀ part ∈ parts, IsComponent part) :
    ("/".intercalate parts).toList.head? ≠ some '/' := by
  rw [String.toList_intercalate]
  cases parts with
  | nil => simp
  | cons first rest =>
    obtain ⟨hne, -, hslash⟩ := h first (by simp)
    cases hfirst : first.toList with
    | nil => exact absurd (String.toList_eq_nil_iff.mp hfirst) hne
    | cons c more =>
      have hc : c ≠ '/' := by
        rintro rfl
        exact hslash (by simp [hfirst])
      cases rest <;> simp [hfirst, List.intercalate, hc]

theorem rootOf_relative {s : List Char} (h : s.head? ≠ some '/') : rootOf s = .relative := by
  cases s with
  | nil => rfl
  | cons c rest =>
    have hc : c ≠ '/' := by simpa using h
    simp [rootOf, hc]

theorem rootOf_slash {s : List Char} (h : s.head? ≠ some '/') : rootOf ('/' :: s) = .slash := by
  cases s with
  | nil => rfl
  | cons c rest =>
    have hc : c ≠ '/' := by simpa using h
    simp [rootOf, hc]

theorem rootOf_doubleSlash {s : List Char} (h : s.head? ≠ some '/') :
    rootOf ('/' :: '/' :: s) = .doubleSlash := by
  cases s with
  | nil => rfl
  | cons c rest =>
    have hc : c ≠ '/' := by simpa using h
    simp [rootOf, hc]

theorem text_relative {parts : List String} (h : parts ≠ []) :
    text { parts } = "/".intercalate parts := by
  cases parts with
  | nil => exact absurd rfl h
  | cons first rest => exact String.empty_append

theorem ofString_text {p : Path} (hp : p.Proper) : ofString p.text = p := by
  obtain ⟨root, parts⟩ := p
  have hparts := meaningful_split_intercalate hp
  have hhead := head?_intercalate hp
  cases root with
  | relative =>
    cases parts with
    | nil => rfl
    | cons first rest =>
      rw [text_relative (List.cons_ne_nil first rest), ofString, hparts, rootOf_relative hhead]
  | slash =>
    show ofString ("/" ++ "/".intercalate parts) = _
    rw [ofString, split_slash_append, meaningful_empty_cons, hparts, String.toList_append]
    exact congrArg (Path.mk · parts) (rootOf_slash hhead)
  | doubleSlash =>
    show ofString ("//" ++ "/".intercalate parts) = _
    have htwo : "//" ++ "/".intercalate parts = "/" ++ ("/" ++ "/".intercalate parts) := by
      rw [← String.append_assoc]
      rfl
    rw [htwo, ofString, split_slash_append, split_slash_append, meaningful_empty_cons,
      meaningful_empty_cons, hparts, String.toList_append, String.toList_append]
    exact congrArg (Path.mk · parts) (rootOf_doubleSlash hhead)

theorem text_injective {p q : Path} (hp : p.Proper) (hq : q.Proper) (h : p.text = q.text) :
    p = q := by
  rw [← ofString_text hp, ← ofString_text hq, h]

end Path

end LineCensus
