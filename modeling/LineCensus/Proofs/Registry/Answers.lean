import LineCensus.Proofs.Registry.Additions

/-!
# Answers to words

A word is answered with a language that it names, in its own letter case or another, or as an
extension.  What is no language is answered only to an extension that a table of additions itself
gives to it: no such table takes a language away, and the bundled extensions all have one.
-/

namespace LineCensus

namespace Registry

variable {r : Registry} {word name : String}

theorem answerFor_of_extension (h : r.contains word = false) (hne : word ≠ "") {language : Value}
    (hextension : r.extensions.find? word = some language) : r.answerFor word = language := by
  rw [answerFor, if_neg (by simpa using hne), if_neg (by simp [h]), hextension]

/-- Only an extension can stand for what is no language, or for one with an empty name. -/
theorem answerFor_cases {v : Value} (h : r.answerFor word = v) :
    v = .null ∨ (∃ name, v = .text name ∧ r.contains name = true ∧ name ≠ "") ∨
      word ≠ "" ∧ r.contains word = false ∧ r.extensions.find? word = some v := by
  subst h
  by_cases hne : word = ""
  · rw [answerFor, hne]
    exact .inl rfl
  · cases hcontains : r.contains word with
    | true => exact .inr (.inl ⟨word, answerFor_of_contains hcontains hne, hcontains, hne⟩)
    | false =>
      rw [answerFor, if_neg (by simpa using hne), hcontains, if_neg Bool.false_ne_true]
      cases hextension : r.extensions.find? word with
      | some language => exact .inr (.inr ⟨hne, rfl, rfl⟩)
      | none =>
        cases hname : r.nameInAnyCase word with
        | none => exact .inl rfl
        | some name =>
          have hmem := List.mem_reverse.mp (List.mem_of_find?_eq_some hname)
          have hlower : Text.lower name = Text.lower word := by simpa using List.find?_some hname
          refine .inr (.inl ⟨name, rfl, contains_iff_mem_names.mpr hmem, ?_⟩)
          -- only the empty text is empty in lower case
          rintro rfl
          exact Text.lower_ne_empty hne hlower.symm

/-! ## Tables over the bundled one -/

theorem bundled_extensions_known :
    ∀ entry ∈ Bundled.extensions, bundled.contains entry.2 = true := by
  decide +kernel

theorem known_of_bundled_extension {ext : String} {v : Value}
    (h : bundled.extensions.find? ext = some v) :
    ∃ name, v = .text name ∧ bundled.contains name = true := by
  have hmap : bundled.extensions.find? ext = (Table.find? Bundled.extensions ext).map .text :=
    Table.find?_map Value.text Bundled.extensions ext
  obtain ⟨language, hfind, hlanguage⟩ := Option.map_eq_some_iff.mp (hmap.symm.trans h)
  exact ⟨language, hlanguage.symm, bundled_extensions_known _ (Table.mem_of_find? hfind)⟩

/-- The document gives the word, which names no language, as an extension to a value that is no
language. -/
structure Misgives (r : Registry) (document : List (Value × Value)) (word : String) (v : Value) :
    Prop where
  nonempty : word ≠ ""
  unnamed : r.contains word = false
  listed : listed? document "extensions" word = some v
  given : v ≠ .null
  unknown : ∀ name, v = .text name → r.contains name = false

section Bundled

variable {document : List (Value × Value)} (h : bundled.extend document = .ok r)

include h

theorem answerFor_of_misgives {v : Value} (hgives : Misgives r document word v) :
    r.answerFor word = v := by
  refine answerFor_of_extension hgives.unnamed hgives.nonempty ?_
  rw [find?_extensions_extend h, hgives.listed]
  rfl

/-- What an extension has that is no language is there because the document lists it. -/
theorem listed_of_unknown_extension {v : Value} (hextension : r.extensions.find? word = some v)
    (hunknown : ∀ name, v = .text name → r.contains name = false) :
    listed? document "extensions" word = some v := by
  rw [find?_extensions_extend h] at hextension
  cases hlisted : listed? document "extensions" word with
  | some given => rwa [hlisted] at hextension
  | none =>
    rw [hlisted] at hextension
    obtain ⟨name, hname, hknown⟩ := known_of_bundled_extension hextension
    have hstays := contains_extend h hknown
    rw [hunknown name hname] at hstays
    cases hstays

theorem misgives_of_answerFor {v : Value} (hanswer : r.answerFor word = v) (hgiven : v ≠ .null)
    (hunknown : ∀ name, v = .text name → r.contains name = false) :
    Misgives r document word v := by
  obtain hnull | ⟨name, hname, hknown, -⟩ | ⟨hne, hunnamed, hextension⟩ := answerFor_cases hanswer
  · exact absurd hnull hgiven
  · rw [hunknown name hname] at hknown
    cases hknown
  · exact ⟨hne, hunnamed, listed_of_unknown_extension h hextension hunknown, hgiven, hunknown⟩

/-- A language is answered with itself, and so is what an extension of its own name stands for. -/
theorem answerFor_self_iff :
    r.answerFor name = .text name ↔
      name ≠ "" ∧ (r.contains name = true ∨ listed? document "extensions" name = some (.text name)) := by
  constructor
  · intro hanswer
    obtain hnull | ⟨_, ⟨⟩, hknown, hne⟩ | ⟨hne, hunnamed, hextension⟩ := answerFor_cases hanswer
    · cases hnull
    · exact ⟨hne, .inl hknown⟩
    · refine ⟨hne, .inr (listed_of_unknown_extension h hextension ?_)⟩
      rintro _ ⟨⟩
      exact hunnamed
  · rintro ⟨hne, hknown | hlisted⟩
    · exact answerFor_of_contains hknown hne
    · cases hknown : r.contains name with
      | true => exact answerFor_of_contains hknown hne
      | false =>
        refine answerFor_of_misgives h ⟨hne, hknown, hlisted, nofun, ?_⟩
        rintro _ ⟨⟩
        exact hknown

/-- Words are answered with languages, apart from the extensions that the table of additions itself
gives to something else.  Every language with a name answers to its name, and so an answer is
answered with itself again, unless it is the empty text, or no language and not given to itself. -/
theorem answerFor_of_extend :
    (∀ word v,
      (r.answerFor word = v ∧ v ≠ .null ∧ ¬∃ name, v = .text name ∧ r.contains name = true) ↔
        Misgives r document word v) ∧
    (∀ name, r.contains name = true → name ≠ "" → r.answerFor name = .text name) ∧
    ∀ word name, r.answerFor word = .text name →
      (r.answerFor name = r.answerFor word ↔ name ≠ "" ∧
        (r.contains name = true ∨ listed? document "extensions" name = some (.text name))) := by
  refine ⟨fun word v => ⟨fun ⟨hanswer, hgiven, hno⟩ => ?_, fun hgives => ?_⟩,
    fun name hknown hne => ?_, fun word name hanswer => ?_⟩
  · refine misgives_of_answerFor h hanswer hgiven fun name hv => ?_
    rw [Bool.eq_false_iff]
    exact fun hknown => hno ⟨name, hv, hknown⟩
  · refine ⟨answerFor_of_misgives h hgives, hgives.given, ?_⟩
    rintro ⟨name, hv, hknown⟩
    rw [hgives.unknown name hv] at hknown
    cases hknown
  · exact answerFor_of_contains hknown hne
  · rw [hanswer]
    exact answerFor_self_iff h

end Bundled

theorem extend_nil : bundled.extend [] = .ok bundled := rfl

/-- A table that gives one extension to an unknown name and one to a number, and the bundled table,
in which all words are answered with languages. -/
theorem answerFor_of_extend_instances :
    let document : List (Value × Value) :=
      [(.text "extensions", .mapping [(.text "foo", .text "Nope"), (.text "bar", .int 5)])]
    (∃ r, bundled.extend document = .ok r ∧ r.answerFor "foo" = .text "Nope" ∧
      r.answerFor "bar" = .int 5 ∧ r.answerFor "Python" = .text "Python" ∧
      r.answerFor "Nope" ≠ r.answerFor "foo") ∧
    ∀ word, bundled.answerFor word = .null ∨
      ∃ name, bundled.answerFor word = .text name ∧ bundled.contains name = true := by
  intro document
  refine ⟨?_, fun word => ?_⟩
  · let r : Registry :=
      { bundled with
        extensions := bundled.extensions.update [("foo", .text "Nope"), ("bar", .int 5)] }
    have hextend : bundled.extend document = .ok r := rfl
    obtain ⟨hmisgiven, hknown, hagain⟩ := answerFor_of_extend hextend
    have hnope : r.contains "Nope" = false := by decide
    have hfoo := (hmisgiven "foo" (.text "Nope")).mpr
      ⟨by decide, by decide, by decide, nofun, by rintro _ ⟨⟩; exact hnope⟩
    have hbar := (hmisgiven "bar" (.int 5)).mpr
      ⟨by decide, by decide, by decide, nofun, nofun⟩
    refine ⟨r, hextend, hfoo.1, hbar.1, hknown "Python" (by decide) (by decide), ?_⟩
    intro hsame
    obtain ⟨-, hcontains | hlisted⟩ := (hagain "foo" "Nope" hfoo.1).mp hsame
    · exact absurd hcontains (by rw [hnope]; decide)
    · exact absurd hlisted (by decide)
  · by_contra hno
    obtain ⟨hgiven, hunknown⟩ := not_or.mp hno
    have hmisgives := ((answerFor_of_extend extend_nil).1 word _).mp ⟨rfl, hgiven, hunknown⟩
    exact absurd hmisgives.listed nofun

/-- A table that gives the extension `foo` to a name that no language has. -/
theorem answerFor_unknown_name :
    let table := Text.Utf8.encode "extensions:\n  foo: Nope\n".toList
    ∃ r, Registry.load Yaml.load "l.yaml" table = .ok r ∧ r.answerFor "foo" = .text "Nope" ∧
      r.contains "Nope" = false ∧ r.answerFor "Nope" = .null := by
  intro table
  have hdocument : Registry.document Yaml.load "l.yaml" table =
      .ok [(.text "extensions", .mapping [(.text "foo", .text "Nope")])] :=
    Fallible.toOption_eq_some.mp (by decide +kernel)
  let r : Registry :=
    { bundled with extensions := bundled.extensions.set "foo" (.text "Nope") }
  have hload : Registry.load Yaml.load "l.yaml" table = .ok r := by
    rw [Registry.load, hdocument]
    rfl
  exact ⟨r, hload, by decide, by decide, by decide⟩

end Registry

end LineCensus
