import LineCensus.LanguageChoice
import LineCensus.Proofs.Files.Counted
import LineCensus.Proofs.Registry.Additions

/-!
# Languages that are left out with an extension

An extension to leave out takes with it the files that have it, and the language it is listed with.
The table of shared extensions is not asked.  An extension that stands there with one language only
takes no language with it, unless both tables have it.
-/

namespace LineCensus

inductive Registry.Belongs (r : Registry) (ext language : String) : Prop where
  | listed (hshared : r.shared.find? ext = none)
      (hlisted : r.extensions.find? ext = some (.text language))
  | alone (candidates : List Value) (hshared : r.shared.find? ext = some candidates)
      (hne : candidates ≠ []) (halone : ∀ v ∈ candidates, v = .text language)

theorem Detector.eq_of_belongs {d : Detector} {p : Path} {language : String} {found : Value}
    (h : d.registry.Belongs p.extension language) (hname : Unnamed p)
    (hsibling : siblings.find? p.extension = none) {t : FileTree} {content : Option (List UInt8)}
    (hdetect : d.detect t p content = .ok found) (hfound : found ≠ .null) :
    found = .text language := by
  cases h with
  | listed hshared hlisted =>
    have hplace := placement_of_extension hname hshared hlisted
    rw [detect_of_settled hplace] at hdetect
    exact (eq_of_checked hdetect).symm
  | alone candidates hshared _ halone =>
    have hplace := placement_of_shared hname hshared
    obtain hnull | hany | ⟨name, hname, -⟩ := mem_of_detect_shared hplace hdetect
    · exact absurd hnull hfound
    · obtain ⟨candidate, hmem, hsame⟩ := List.any_eq_true.mp hany
      rw [halone candidate hmem] at hsame
      exact Value.text_sameKey_iff.mp hsame
    · cases hsibling.symm.trans hname

namespace LanguageChoice

variable {r : Registry} {choice : LanguageChoice} {p : Path} {ext language : String}
  {exts names : List String}

theorem admits_eq_true_iff :
    choice.admits p language = true ↔
      p.extension ∉ choice.excludeExt ∧ language ∉ choice.excludeExt ∧
        language ∉ choice.excludeLang ∧
        (choice.includeLang = [] ∨ language ∈ choice.includeLang) := by
  simp [admits, and_assoc]

theorem admits_of_mem_excludeExt (h : p.extension ∈ choice.excludeExt) (language : String) :
    choice.admits p language = false := by
  rw [Bool.eq_false_iff, Ne, admits_eq_true_iff]
  exact fun hadmits => hadmits.1 h

theorem admits_of_mem_excludeLang (h : language ∈ choice.excludeLang) (p : Path) :
    choice.admits p language = false := by
  rw [Bool.eq_false_iff, Ne, admits_eq_true_iff]
  exact fun hadmits => hadmits.2.2.1 h

theorem make_eq_ok :
    make r exts names = .ok choice ↔
      (∀ given ∈ exts, ∀ v, r.extensions.find? (Options.dropDots given) = some v →
        v.isHashable = true) ∧
      choice =
        { excludeExt := (exts.map Options.dropDots).eraseDups
          excludeLang := (((exts.map Options.dropDots).eraseDups.filterMap
            r.extensions.find?).filterMap Value.text?).eraseDups
          includeLang := (names.filter r.contains).eraseDups } := by
  have hall : ((exts.map Options.dropDots).eraseDups.filterMap r.extensions.find?).all
      Value.isHashable = true ↔ ∀ given ∈ exts, ∀ v,
        r.extensions.find? (Options.dropDots given) = some v → v.isHashable = true := by
    simp only [List.all_eq_true, List.mem_filterMap, List.mem_eraseDups, List.mem_map]
    constructor
    · intro h given hgiven v hv
      exact h v ⟨_, ⟨given, hgiven, rfl⟩, hv⟩
    · rintro h v ⟨_, ⟨given, hgiven, rfl⟩, hv⟩
      exact h given hgiven v hv
  rw [← hall, make]
  cases List.all _ _ with
  | true => exact ⟨fun h => ⟨rfl, (Except.ok.inj h).symm⟩, fun h => congrArg Except.ok h.2.symm⟩
  | false => exact ⟨nofun, fun h => nomatch h.1⟩

/-- There is a choice unless one of the extensions stands for what cannot be looked up. -/
theorem make_cases (r : Registry) (exts names : List String) :
    (∃ choice, make r exts names = .ok choice) ∨
      make r exts names = .error .unhashable ∧ ∃ given ∈ exts, ∃ v,
        r.extensions.find? (Options.dropDots given) = some v ∧ v.isHashable = false := by
  by_cases hall : ∀ given ∈ exts, ∀ v, r.extensions.find? (Options.dropDots given) = some v →
      v.isHashable = true
  · exact .inl ⟨_, make_eq_ok.mpr ⟨hall, rfl⟩⟩
  · cases hmake : make r exts names with
    | ok choice => exact absurd (make_eq_ok.mp hmake).1 hall
    | error fault =>
      push Not at hall
      obtain ⟨given, hgiven, v, hv, hhash⟩ := hall
      refine .inr ⟨?_, given, hgiven, v, hv, by simpa using hhash⟩
      rw [make] at hmake
      split at hmake <;> cases hmake
      rfl

section Made

variable (hmake : make r exts names = .ok choice)

include hmake

theorem mem_excludeExt_make :
    ext ∈ choice.excludeExt ↔ ∃ given ∈ exts, Options.dropDots given = ext := by
  rw [(make_eq_ok.mp hmake).2, List.mem_eraseDups, List.mem_map]

theorem mem_excludeLang_make :
    language ∈ choice.excludeLang ↔
      ∃ given ∈ exts, r.extensions.find? (Options.dropDots given) = some (.text language) := by
  rw [(make_eq_ok.mp hmake).2]
  simp only [List.mem_eraseDups, List.mem_filterMap, List.mem_map]
  constructor
  · rintro ⟨v, ⟨_, ⟨given, hgiven, rfl⟩, hv⟩, htext⟩
    rw [Value.text?_eq_some.mp htext] at hv
    exact ⟨given, hgiven, hv⟩
  · rintro ⟨given, hgiven, hv⟩
    exact ⟨.text language, ⟨_, ⟨given, hgiven, rfl⟩, hv⟩, rfl⟩

end Made

/-- There is a choice, unless an extension stands for what cannot be looked up.  No file with an
extension to leave out is counted.  If its files can be of one language only, no
file of that language is, unless the extension stands among the shared ones and is not listed with
the language.  Of the other files, those are left out whose language is listed with an extension to
leave out, is itself among these, or is not asked for where others are. -/
theorem admits_of_leftOut (h : ext ∈ exts) (r : Registry) (names : List String) :
    let bare := Options.dropDots ext
    ((∃ choice, make r exts names = .ok choice) ∨
      make r exts names = .error .unhashable ∧ ∃ given ∈ exts, ∃ v,
        r.extensions.find? (Options.dropDots given) = some v ∧ v.isHashable = false) ∧
    ∀ choice, make r exts names = .ok choice →
      (∀ p language, p.extension = bare → choice.admits p language = false) ∧
      (∀ language, r.Belongs bare language →
        (r.shared.find? bare = none ∨ r.extensions.find? bare = some (.text language)) →
        ∀ p, choice.admits p language = false) ∧
      ∀ p language, p.extension ∉ choice.excludeExt →
        (choice.admits p language = false ↔
          (∃ given ∈ exts, Options.dropDots given = language) ∨
          (∃ given ∈ exts, r.extensions.find? (Options.dropDots given) = some (.text language)) ∨
          choice.includeLang ≠ [] ∧ language ∉ choice.includeLang) := by
  intro bare
  refine ⟨make_cases r exts names, fun choice hmake => ⟨?_, ?_, ?_⟩⟩
  · intro p language hp
    have hmem : p.extension ∈ choice.excludeExt :=
      (mem_excludeExt_make hmake).mpr ⟨ext, h, hp.symm⟩
    exact admits_of_mem_excludeExt hmem language
  · intro language hbelongs hplain p
    have hlisted : r.extensions.find? bare = some (.text language) := by
      cases hbelongs with
      | listed _ hlisted => exact hlisted
      | alone candidates hshared _ _ =>
        apply hplain.resolve_left
        rw [hshared]
        exact Option.some_ne_none candidates
    have hmem : language ∈ choice.excludeLang := (mem_excludeLang_make hmake).mpr ⟨ext, h, hlisted⟩
    exact admits_of_mem_excludeLang hmem p
  · intro p language hp
    rw [← mem_excludeExt_make hmake, ← mem_excludeLang_make hmake, Bool.eq_false_iff, Ne,
      admits_eq_true_iff, and_iff_right hp, not_and_or, not_and_or, not_or, not_not, not_not]

/-- With Python left out by its extension, and `ts`: a Python script without an extension, a file of
TypeScript with the extension, and one with another. -/
theorem admits_of_leftOut_instances :
    let exts := [".py", "ts"]
    ".py" ∈ exts ∧ "ts" ∈ exts ∧ Registry.bundled.Belongs "py" "Python" ∧
      Registry.bundled.Belongs "ts" "TypeScript" ∧
      ∃ choice, make .bundled exts [] = .ok choice ∧
        choice.admits (.ofString "tool") "Python" = false ∧
        choice.admits (.ofString "a.ts") "TypeScript" = false ∧
        choice.admits (.ofString "a.tsx") "TypeScript" = true := by
  intro exts
  have hpy : ".py" ∈ exts := by decide
  have hts : "ts" ∈ exts := by decide
  have hpython : Registry.bundled.Belongs "py" "Python" :=
    .listed (by decide) (by decide)
  have htypes : Registry.bundled.Belongs "ts" "TypeScript" :=
    .alone [.text "TypeScript"] (by decide) (List.cons_ne_nil _ _) (by decide)
  have hbare : Options.dropDots ".py" = "py" := by decide
  let choice : LanguageChoice := ⟨["py", "ts"], ["Python"], []⟩
  have hmake : make .bundled exts [] = .ok choice := by decide
  obtain ⟨-, hleft, -⟩ := (admits_of_leftOut hpy .bundled []).2 choice hmake
  obtain ⟨hsuffix, -, hexact⟩ := (admits_of_leftOut hts .bundled []).2 choice hmake
  rw [hbare] at hleft
  have hscript := hleft "Python" hpython (.inl (by decide)) (.ofString "tool")
  have hfile := hsuffix (.ofString "a.ts") "TypeScript" (by decide)
  have hother : choice.admits (.ofString "a.tsx") "TypeScript" ≠ false := by
    rw [Ne, hexact (.ofString "a.tsx") "TypeScript" (by decide)]
    decide
  exact ⟨hpy, hts, hpython, htypes, choice, hmake, hscript, hfile, by simpa using hother⟩

/-- The extension `ts` is one of TypeScript alone, but a file of TypeScript with another extension
is counted where it is left out. -/
theorem admits_shared_alone :
    Registry.bundled.Belongs "ts" "TypeScript" ∧
      (∀ t content, Detector.detect {} t (.ofString "a.tsx") content = .ok (.text "TypeScript")) ∧
      ∃ choice, make .bundled ["ts"] [] = .ok choice ∧
        choice.admits (.ofString "a.tsx") "TypeScript" = true := by
  have hplace : Detector.placement {} (.ofString "a.tsx") = .settled (.text "TypeScript") := by
    decide
  refine ⟨.alone [.text "TypeScript"] (by decide) (List.cons_ne_nil _ _) (by decide), ?_, ?_⟩
  · exact fun t content => Detector.detect_of_settled hplace t content
  · exact ⟨⟨["ts"], [], []⟩, by decide, by decide⟩

end LanguageChoice

theorem FileCounter.count_of_leftOut {c : FileCounter} {choice : LanguageChoice}
    {exts names : List String} {ext : String} (hfilter : c.filter = some choice)
    (hmake : LanguageChoice.make c.detector.registry exts names = .ok choice) (h : ext ∈ exts)
    {t : FileTree} {p : Path} {row : FileEntry} (hcount : c.count t p = .ok (some row)) :
    p.extension ≠ Options.dropDots ext ∧
      c.detector.registry.extensions.find? (Options.dropDots ext) ≠ some (.text row.language) := by
  have hcounter : c = { c with filter := some choice } := by rw [← hfilter]
  rw [hcounter, count_filter, LanguageChoice.admits_eq_true_iff] at hcount
  obtain ⟨-, hext, -, hlang, -⟩ := hcount
  constructor
  · intro hp
    exact hext ((LanguageChoice.mem_excludeExt_make hmake).mpr ⟨ext, h, hp.symm⟩)
  · intro hlisted
    exact hlang ((LanguageChoice.mem_excludeLang_make hmake).mpr ⟨ext, h, hlisted⟩)

end LineCensus
