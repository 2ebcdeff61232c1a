import LineCensus.Proofs.Language.FirstLine
import LineCensus.Proofs.Registry.Answers
import Mathlib.Data.List.MinMax

/-!
# How much of a file decides its language

A name that settles the language leaves nothing for the content to say.  An extension that no
languages share leaves it to the first line, and only one that they do share to the whole content.
There the candidate with the highest score is found, the first of those if there are several.
-/

namespace LineCensus

namespace Content

variable {σ : Type} [LinearOrder σ]

theorem fst_leader (value : Value → σ) (first : Value) (others : List Value) :
    some (leader (first, value first) (others.map fun language => (language, value language))).1 =
      List.argmax value (first :: others) := by
  rw [List.argmax, List.foldl_cons]
  -- both go through the others with the best candidate so far
  show _ = others.foldl _ (some first)
  induction others generalizing first with
  | nil => rfl
  | cons next rest ih =>
    rw [List.map_cons, leader, List.foldl_cons, ← leader, List.foldl_cons]
    by_cases h : value first < value next
    · rw [if_pos h, ih]
      simp only [List.argAux, if_pos h]
    · rw [if_neg h, ih]
      simp only [List.argAux, if_neg h]

theorem argmax_texts (value : Value → σ) (names : List String) :
    (names.map Value.text).argmax value =
      (names.argmax fun name => value (.text name)).map Value.text := by
  induction names using List.reverseRecOn with
  | nil => rfl
  | append_singleton names name ih =>
    rw [List.map_append, List.map_singleton, List.argmax_concat, List.argmax_concat, ih]
    cases names.argmax fun name => value (.text name) with
    | none => rfl
    | some best =>
      show (if value (.text best) < value (.text name) then _ else _) = Option.map _ (ite _ _ _)
      split <;> rfl

theorem guessBy_of_argmax (score : Value → List Char → σ) (content : List UInt8)
    {candidates : List Value} (hhashable : ∀ v ∈ candidates, v.isHashable = true) {language : Value}
    (h : (candidates.argmax fun v => score v (Text.Utf8.decodeDropping content)) = some language) :
    guessBy score content candidates = .ok language := by
  have hall : candidates.all Value.isHashable = true := List.all_eq_true.mpr hhashable
  rw [guessBy, hall]
  cases candidates with
  | nil => cases h
  | cons first others =>
    have hleader := fst_leader (fun v => score v (Text.Utf8.decodeDropping content)) first others
    exact congrArg Except.ok (Option.some.inj (hleader.trans h))

end Content

namespace Detector

variable {d : Detector} {t : FileTree} {p : Path} {given : Option (List UInt8)}
  {content : List UInt8}

def Shows (t : FileTree) (p : Path) (given : Option (List UInt8)) (content : List UInt8) : Prop :=
  given.or (t.read p).toOption = some content

theorem detect_of_shows (d : Detector) (h : Shows t p given content) :
    d.detect t p given = d.languageOf p (some content) >>= d.checked := by
  cases given with
  | some bytes =>
    cases h
    rfl
  | none => exact d.detect_none_of_read (Fallible.toOption_eq_some.mp h)

/-! ## Names and first lines -/

/-- The name of the file is a well-known one, or it has an extension of one language. -/
def Placed (d : Detector) (p : Path) : Prop :=
  ¬Unnamed p ∨ d.registry.shared.find? p.extension = none ∧
    (d.registry.extensions.find? p.extension).isSome = true

instance (d : Detector) (p : Path) : Decidable (d.Placed p) :=
  inferInstanceAs (Decidable (_ ∨ _))

theorem placement_of_not_unnamed (h : ¬Unnamed p) :
    ∃ language, d.placement p = .settled language := by
  unfold placement
  cases hname : knownNames.find? p.name with
  | some language => exact ⟨_, rfl⟩
  | none =>
    cases hlower : knownLowerNames.find? (Text.lower p.name) with
    | some language => exact ⟨_, rfl⟩
    | none => exact absurd ⟨hname, hlower⟩ h

theorem placement_of_placed (h : d.Placed p) : ∃ language, d.placement p = .settled language := by
  by_cases hname : Unnamed p
  · obtain ⟨hshared, hextension⟩ := h.resolve_left (not_not_intro hname)
    obtain ⟨language, hlanguage⟩ := Option.isSome_iff_exists.mp hextension
    exact ⟨language, placement_of_extension hname hshared hlanguage⟩
  · exact placement_of_not_unnamed hname

theorem placement_of_unplaced (hshared : d.registry.shared.find? p.extension = none)
    (h : ¬d.Placed p) : d.placement p = .unlisted p.extension := by
  obtain ⟨hname, hextension⟩ := not_or.mp h
  exact placement_of_unlisted (Decidable.not_not.mp hname) hshared (by simpa [hshared] using hextension)

theorem languageOf_unlisted {ext : String} (hplace : d.placement p = .unlisted ext)
    (content : List UInt8) :
    d.languageOf p (some content) = .ok ((d.interpreterLanguage? (cutLine content)).getD
      (if ext.isEmpty then .null else .text ext)) := by
  rw [languageOf, hplace]
  rfl

/-- Where the name of a file settles its language, no content does, nor the lack of one.  Where no
languages share its extension, contents with the same first line make it a file of the same
language, whether they are given or read. -/
theorem detect_eq_of_cutLine (d : Detector) (p : Path) :
    (d.Placed p → ∃ language, d.placement p = .settled language ∧
      ∀ t given, d.detect t p given = d.checked language) ∧
    (d.registry.shared.find? p.extension = none →
      ∀ t t' given given' content content', Shows t p given content →
        Shows t' p given' content' → cutLine content = cutLine content' →
        d.detect t p given = d.detect t' p given') := by
  refine ⟨fun hplaced => ?_, fun hshared t t' given given' content content' hshows hshows' hline => ?_⟩
  · obtain ⟨language, hplace⟩ := placement_of_placed hplaced
    exact ⟨language, hplace, fun t given => detect_of_settled hplace t given⟩
  · by_cases hplaced : d.Placed p
    · obtain ⟨language, hplace⟩ := placement_of_placed hplaced
      rw [detect_of_settled hplace, detect_of_settled hplace]
    · have hplace := placement_of_unplaced hshared hplaced
      rw [detect_of_shows d hshows, detect_of_shows d hshows', languageOf_unlisted hplace,
        languageOf_unlisted hplace, hline]

/-- A file that is never counted, a script with an extension, and two scripts of which one is a line
without an end. -/
theorem detect_eq_of_cutLine_scripts :
    let d : Detector := {}
    let content := Text.Utf8.encode "#!/usr/bin/env ruby\nputs 1\n".toList
    let content' := Text.Utf8.encode "#!/usr/bin/env ruby".toList
    let t : FileTree := { root := [("run", .file content')] }
    let p : Path := .ofString "run"
    d.Placed (.ofString "Rebar") ∧ (∀ t given, d.detect t (.ofString "Rebar") given = .ok .null) ∧
      d.Placed (.ofString "a.py") ∧
      d.detect {} (.ofString "a.py") (some content) = .ok (.text "Python") ∧
      d.registry.shared.find? p.extension = none ∧ Shows {} p (some content) content ∧
      Shows t p none content' ∧ cutLine content = cutLine content' ∧
      d.detect {} p (some content) = d.detect t p none := by
  intro d content content' t p
  have hrebar : d.Placed (.ofString "Rebar") := by decide
  have hpython : d.Placed (.ofString "a.py") := by decide
  obtain ⟨language, hplace, hsame⟩ := (detect_eq_of_cutLine d (.ofString "Rebar")).1 hrebar
  obtain ⟨language', hplace', hsame'⟩ := (detect_eq_of_cutLine d (.ofString "a.py")).1 hpython
  have hnone : d.placement (.ofString "Rebar") = .settled .null := by decide
  have hsome : d.placement (.ofString "a.py") = .settled (.text "Python") := by decide
  cases hplace.symm.trans hnone
  cases hplace'.symm.trans hsome
  have hshared : d.registry.shared.find? p.extension = none := by decide
  have hshows : Shows {} p (some content) content := rfl
  have hshows' : Shows t p none content' :=
    Fallible.toOption_eq_some.mpr
      (FileTree.read_of_entry "run" rfl (by decide) rfl)
  have hline : cutLine content = cutLine content' := by decide
  exact ⟨hrebar, hsame, hpython, hsame' {} (some content), hshared, hshows, hshows', hline,
    (detect_eq_of_cutLine d p).2 hshared {} t (some content) none content content' hshows hshows'
      hline⟩

/-! ## Candidates -/

theorem languageOf_shared {ext : String} {candidates : List Value}
    (hplace : d.placement p = .shared ext candidates) {judge : Judge} (hjudge : d.judge = some judge)
    (content : List UInt8) :
    d.languageOf p (some content) = judge p content candidates >>= d.accept ext candidates := by
  rw [languageOf, hplace]
  dsimp only
  rw [hjudge]

theorem siblings_of_ne {ext : String} (h : ext ≠ "mo") : siblings.find? ext = none := by
  rw [siblings, Table.find?_cons, if_neg (Ne.symm h)]
  rfl

/-- A file with an extension that languages share is always of one of these: the first of those that
its content speaks for most, whatever the scores are. -/
theorem detect_by_score {σ : Type} [LinearOrder σ] (score : Value → List Char → σ) {r : Registry}
    (hname : Unnamed p) (hext : p.extension ≠ "mo") {candidates : List String}
    (hshared : r.shared.find? p.extension = some (candidates.map .text)) (hne : candidates ≠ [])
    (hknown : ∀ name ∈ candidates, name ≠ "" ∧ r.contains name = true)
    (hshows : Shows t p given content) :
    let value (language : String) := score (.text language) (Text.Utf8.decodeDropping content)
    ∃ language ∈ candidates,
      Detector.detect { registry := r, judge := some (scoreJudge score) } t p given =
        .ok (.text language) ∧
      ∀ other ∈ candidates, value other ≤ value language ∧
        (value language ≤ value other →
          candidates.idxOf language ≤ candidates.idxOf other) := by
  intro value
  obtain ⟨language, hlanguage⟩ : ∃ language, candidates.argmax value = some language :=
    Option.ne_none_iff_exists'.mp (List.argmax_eq_none.not.mpr hne)
  obtain ⟨hmem, hmax, hfirst⟩ := List.argmax_eq_some_iff.mp hlanguage
  refine ⟨language, hmem, ?_, fun other hother => ⟨hmax other hother, hfirst other hother⟩⟩
  obtain ⟨hnonempty, hcontains⟩ := hknown language hmem
  let d : Detector := { registry := r, judge := some (scoreJudge score) }
  have hplace : d.placement p = .shared p.extension (candidates.map .text) :=
    placement_of_shared hname hshared
  have hhashable : ∀ v ∈ candidates.map Value.text, v.isHashable = true := by
    intro v hv
    obtain ⟨name, -, rfl⟩ := List.mem_map.mp hv
    rfl
  have hanswer : scoreJudge score p content (candidates.map .text) = .ok (.text language) := by
    refine Content.guessBy_of_argmax score content hhashable ?_
    rw [Content.argmax_texts]
    exact congrArg (Option.map Value.text) hlanguage
  have haccept : d.accept p.extension (candidates.map .text) (.text language) =
      .ok (.text language) := by
    rw [accept_of_known (List.mem_map_of_mem hmem) hnonempty hcontains, siblings_of_ne hext]
    rfl
  have hlanguageOf : d.languageOf p (some content) = .ok (.text language) := by
    rw [languageOf_shared hplace rfl, hanswer]
    exact haccept
  calc d.detect t p given
      = d.languageOf p (some content) >>= d.checked := detect_of_shows d hshows
    _ = d.checked (.text language) := by rw [hlanguageOf]; rfl
    _ = .ok (.text language) := checked_of_writable rfl

/-- Content that says nothing is of the first candidate, and content that speaks for another one is
of that. -/
theorem detect_by_score_in_matlab :
    let d : Detector := {}
    let p : Path := .ofString "a.m"
    let candidates := ["Objective-C", "MATLAB", "Mercury"]
    let comment := Text.Utf8.encode "% y".toList
    Unnamed p ∧ p.extension ≠ "mo" ∧
      d.registry.shared.find? p.extension = some (candidates.map .text) ∧
      candidates ≠ [] ∧ (∀ name ∈ candidates, name ≠ "" ∧ d.registry.contains name = true) ∧
      d.detect {} p (some []) = .ok (.text "Objective-C") ∧
      d.detect {} p (some comment) = .ok (.text "MATLAB") := by
  intro d p candidates comment
  have hname : Unnamed p := by decide
  have hext : p.extension ≠ "mo" := by decide
  have hshared : d.registry.shared.find? p.extension = some (candidates.map .text) := by
    decide
  have hknown : ∀ name ∈ candidates, name ≠ "" ∧ d.registry.contains name = true := by
    decide
  have hshows (content : List UInt8) : Shows {} p (some content) content := rfl
  have hleader (content : List UInt8) :=
    detect_by_score Content.score hname hext hshared (List.cons_ne_nil _ _) hknown (hshows content)
  refine ⟨hname, hext, hshared, List.cons_ne_nil _ _, hknown, ?_, ?_⟩
  · obtain ⟨language, hmem, hdetect, hfirst⟩ := hleader []
    have hscores : ∀ name ∈ candidates,
        Content.score (.text name) (Text.Utf8.decodeDropping []) = 0 := by
      decide +kernel
    have hindex := (hfirst "Objective-C" List.mem_cons_self).2
      ((hscores language hmem).le.trans (Nat.zero_le _))
    rw [List.idxOf_cons_self, Nat.le_zero] at hindex
    have hlanguage : language = "Objective-C" :=
      (List.idxOf_inj hmem).mp (hindex.trans List.idxOf_cons_self.symm)
    rw [← hlanguage]
    exact hdetect
  · obtain ⟨language, hmem, hdetect, hfirst⟩ := hleader comment
    have hscores : ∀ name ∈ candidates, name = "MATLAB" ∨
        Content.score (.text name) (Text.Utf8.decodeDropping comment) <
          Content.score (.text "MATLAB") (Text.Utf8.decodeDropping comment) := by
      decide +kernel
    have hmax := (hfirst "MATLAB" (by decide)).1
    have hlanguage : language = "MATLAB" := (hscores language hmem).resolve_right (not_lt.mpr hmax)
    rw [← hlanguage]
    exact hdetect

end Detector

end LineCensus
