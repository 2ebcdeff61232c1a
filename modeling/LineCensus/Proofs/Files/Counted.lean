import LineCensus.FileCounter
import LineCensus.Proofs.Fallible
import LineCensus.Proofs.Files.Lookup

/-!
# Entries of single files

What a file is counted as, taken apart: its name and content say which language it is in, the
registry and the choice of languages say whether this language is counted, and the entry itself
depends on neither.  A file that cannot be read is judged by its name alone.
-/

namespace LineCensus

theorem Registry.exists_lookup {r : Registry} {name : String} (h : r.contains name = true) :
    ∃ g, r.lookup name = some g ∧ g.name = name := by
  obtain ⟨g, hfind⟩ := Option.isSome_iff_exists.mp (List.find?_isSome.mpr (List.any_eq_true.mp h))
  have hname := List.find?_some hfind
  exact ⟨g, hfind, beq_iff_eq.mp hname⟩

namespace FileCounter

variable {c : FileCounter} {t : FileTree} {p : Path} {g : Grammar} {r : FileEntry}

theorem language_of_measure (h : c.measure t p g = .ok r) : r.language = g.name := by
  rw [measure] at h
  split at h
  · obtain ⟨_, hcontent, rfl⟩ := Fallible.map_eq_ok.mp h
    obtain ⟨_, -, rfl⟩ := Fallible.map_eq_ok.mp hcontent
    rfl
  · cases h
    rfl

theorem path_of_measure (h : c.measure t p g = .ok r) : r.path = p.text := by
  rw [measure] at h
  split at h
  · obtain ⟨_, hcontent, rfl⟩ := Fallible.map_eq_ok.mp h
    obtain ⟨_, -, rfl⟩ := Fallible.map_eq_ok.mp hcontent
    rfl
  · cases h
    rfl

theorem contentHash_of_measure {content : List UInt8} (hread : t.read p = .ok content)
    (h : c.measure t p g = .ok r) : r.contentHash = some (Digest.hex (Digest.sha256 content)) := by
  rw [measure, hread] at h
  obtain ⟨_, -, rfl⟩ := Fallible.map_eq_ok.mp h
  rfl

/-! What becomes of a file: its entry, nothing, or an error. -/

theorem count_eq_some :
    c.count t p = .ok (some r) ↔ ∃ g, c.grammarAt t p = .ok (some g) ∧ c.measure t p g = .ok r := by
  simp only [count, Fallible.bind_eq_ok, Fallible.mapError_eq_ok]
  constructor
  · rintro ⟨found, hfound, h⟩
    cases found with
    | none => cases h
    | some g =>
      obtain ⟨_, hmeasure, ⟨⟩⟩ := Fallible.map_eq_ok.mp h
      exact ⟨g, hfound, Fallible.mapError_eq_ok.mp hmeasure⟩
  · rintro ⟨g, hfound, hmeasure⟩
    refine ⟨some g, hfound, ?_⟩
    show ((c.measure t p g).mapError CountError.line).map some = _
    rw [hmeasure]
    rfl

theorem count_eq_none : c.count t p = .ok none ↔ c.grammarAt t p = .ok none := by
  simp only [count, Fallible.bind_eq_ok, Fallible.mapError_eq_ok]
  constructor
  · rintro ⟨found, hfound, h⟩
    cases found with
    | none => exact hfound
    | some g =>
      obtain ⟨_, -, ⟨⟩⟩ := Fallible.map_eq_ok.mp h
  · intro hfound
    exact ⟨none, hfound, rfl⟩

theorem count_eq_error {e : CountError} :
    c.count t p = .error e ↔ (∃ fault, c.grammarAt t p = .error fault ∧ e = .language fault) ∨
      ∃ g large, c.grammarAt t p = .ok (some g) ∧ c.measure t p g = .error large ∧
        e = .line large := by
  simp only [count, Fallible.bind_eq_error, Fallible.mapError_eq_ok, Fallible.mapError_eq_error]
  constructor
  · rintro (⟨fault, hfault, rfl⟩ | ⟨found, hfound, h⟩)
    · exact .inl ⟨fault, hfault, rfl⟩
    · cases found with
      | none => cases h
      | some g =>
        obtain ⟨large, hlarge, rfl⟩ := Fallible.mapError_eq_error.mp (Fallible.map_eq_error.mp h)
        exact .inr ⟨g, large, hfound, hlarge, rfl⟩
  · rintro (⟨fault, hfault, rfl⟩ | ⟨g, large, hfound, hlarge, rfl⟩)
    · exact .inl ⟨fault, hfault, rfl⟩
    · refine .inr ⟨some g, hfound, ?_⟩
      show ((c.measure t p g).mapError CountError.line).map some = _
      rw [hlarge]
      rfl

theorem exists_measure (hlimit : c.lineLimit + 1 ≤ Line.largestRequest) (t : FileTree) (p : Path)
    (g : Grammar) : ∃ r, c.measure t p g = .ok r := by
  rw [measure]
  cases t.read p with
  | error e => exact ⟨_, rfl⟩
  | ok content =>
    dsimp only
    rw [entryFor, entryOfContent, Line.read, if_pos hlimit]
    exact ⟨_, rfl⟩

theorem measure_of_oversized (hlimit : ¬c.lineLimit + 1 ≤ Line.largestRequest)
    {content : List UInt8} (hread : t.read p = .ok content) :
    c.measure t p g = .error ⟨c.lineLimit + 1⟩ := by
  rw [measure, hread]
  dsimp only
  rw [entryFor, entryOfContent, Line.read, if_neg hlimit]
  rfl

theorem exists_count (hlimit : c.lineLimit + 1 ≤ Line.largestRequest) {g : Option Grammar}
    (hgrammar : c.grammarAt t p = .ok g) : ∃ found, c.count t p = .ok found := by
  cases g with
  | none => exact ⟨none, count_eq_none.mpr hgrammar⟩
  | some g =>
    obtain ⟨r, hr⟩ := exists_measure hlimit t p g
    exact ⟨some r, count_eq_some.mpr ⟨g, hgrammar, hr⟩⟩

theorem exists_entry (hlimit : c.lineLimit + 1 ≤ Line.largestRequest) {name : String}
    (hgrammar : (c.grammarAt t p).map (Option.map Grammar.name) = .ok (some name)) :
    ∃ r, c.count t p = .ok (some r) ∧ r.path = p.text ∧ r.language = name := by
  obtain ⟨found, hfound, hname⟩ := Fallible.map_eq_ok.mp hgrammar
  obtain ⟨g, rfl, rfl⟩ := Option.map_eq_some_iff.mp hname
  obtain ⟨r, hmeasure⟩ := exists_measure hlimit t p g
  exact ⟨r, count_eq_some.mpr ⟨g, hfound, hmeasure⟩, path_of_measure hmeasure,
    language_of_measure hmeasure⟩

theorem grammarAt_of_read {content : List UInt8} (hread : t.read p = .ok content) :
    c.grammarAt t p =
      (c.detector.languageOf p (some content) >>= c.detector.checked) >>= c.grammarFor p := by
  rw [grammarAt, hread]
  rfl

/-! A choice of languages leaves out files, and changes no entry. -/

theorem grammarAt_filter (c : FileCounter) (choice : LanguageChoice) (t : FileTree) (p : Path) :
    { c with filter := some choice }.grammarAt t p =
      ({ c with filter := none }.grammarAt t p).map
        (Option.filter fun g => choice.admits p g.name) := by
  rw [grammarAt, grammarAt]
  cases c.detector.detect t p (t.read p).toOption with
  | error fault => rfl
  | ok language =>
    show (c.grammar? language).map _ = ((c.grammar? language).map _).map _
    cases c.grammar? language with
    | error fault => rfl
    | ok found =>
      refine congrArg Except.ok ?_
      rw [Option.filter_filter]
      rfl

theorem count_filter (c : FileCounter) (choice : LanguageChoice) (t : FileTree) (p : Path)
    {r : FileEntry} :
    { c with filter := some choice }.count t p = .ok (some r) ↔
      { c with filter := none }.count t p = .ok (some r) ∧ choice.admits p r.language = true := by
  simp only [count_eq_some, grammarAt_filter, Fallible.map_eq_ok, Option.filter_eq_some_iff]
  constructor
  · rintro ⟨g, ⟨_, hfound, rfl, hadmits⟩, hmeasure⟩
    exact ⟨⟨g, hfound, hmeasure⟩, language_of_measure hmeasure ▸ hadmits⟩
  · rintro ⟨⟨g, hfound, hmeasure⟩, hadmits⟩
    exact ⟨g, ⟨some g, hfound, rfl, language_of_measure hmeasure ▸ hadmits⟩, hmeasure⟩

end FileCounter

/-! ## Files that cannot be read -/

/-- An entry without lines, which says why the file could not be read. -/
structure FileEntry.Unread (r : FileEntry) (p : Path) (e : FileError) : Prop where
  path : r.path = p.text
  code : r.code = 0
  comment : r.comment = 0
  blank : r.blank = 0
  tokens : r.tokens = 0
  contentHash : r.contentHash = none
  error : r.error = some s!"cannot read {p.text}: {e.message}"
  failed : r.failed = true

namespace FileCounter

variable {c : FileCounter} {t : FileTree} {p : Path} {e : FileError}

theorem unread_unreadable (p : Path) (g : Grammar) (e : FileError) :
    (unreadable p g e).Unread p e := by
  refine ⟨rfl, rfl, rfl, rfl, rfl, rfl, rfl, ?_⟩
  have hseparator : toString ": " ≠ "" := by decide
  simp [FileEntry.failed, unreadable, hseparator]

/-- A file that cannot be read has no line that is too long. -/
theorem count_of_read_error (hread : t.read p = .error e) {g : Option Grammar}
    (hgrammar : c.grammarAt t p = .ok g) :
    c.count t p = .ok (g.map fun g => unreadable p g e) := by
  cases g with
  | none => exact count_eq_none.mpr hgrammar
  | some g =>
    refine count_eq_some.mpr ⟨g, hgrammar, ?_⟩
    rw [measure, hread]

end FileCounter

namespace Detector

variable {d : Detector} {p : Path}

/-- The registry has the language that the name of the file stands for, or all of those that share
its extension. -/
inductive Knows (d : Detector) (p : Path) : Prop where
  | settled (language : String) (hplace : d.placement p = .settled (.text language))
      (hregistry : d.registry.contains language = true)
  | shared (ext : String) (candidates : List String)
      (hplace : d.placement p = .shared ext (candidates.map .text))
      (hregistry : ∀ name ∈ candidates, d.registry.contains name = true)

/-- The name of the file is enough to tell its language; the empty text names none. -/
def Settles (d : Detector) (p : Path) : Prop :=
  ∃ language, d.placement p = .settled (.text language) ∧ language ≠ ""

theorem detect_of_read_error {t : FileTree} {e : FileError} (hread : t.read p = .error e)
    {language : Value} (hlanguage : d.languageOf p none = .ok language)
    (hwritable : language.isWritable = true) :
    d.detect t p (t.read p).toOption = .ok language := by
  rw [detect, FileTree.readLine, hread]
  calc d.languageOf p none >>= d.checked
      = d.checked language := by rw [hlanguage]; rfl
    _ = .ok language := checked_of_writable hwritable

/-- No judge is asked about a file without content. -/
theorem languageOf_none_of_not_settles (hknows : d.Knows p) (hsettles : ¬d.Settles p) :
    ∃ language : Value, d.languageOf p none = .ok language ∧ language.isNothing = true ∧
      language.isWritable = true := by
  cases hknows with
  | settled language hplace _ =>
    have hempty : language = "" := Decidable.byContradiction fun hne =>
      hsettles ⟨language, hplace, hne⟩
    refine ⟨.text "", ?_, rfl, rfl⟩
    rw [languageOf, hplace, hempty]
  | shared ext candidates hplace _ =>
    refine ⟨.null, ?_, rfl, rfl⟩
    rw [languageOf, hplace]
    cases d.judge <;> rfl

end Detector

namespace FileCounter

variable {c : FileCounter} {t : FileTree} {p : Path} {e : FileError}

/-- Where no language is left out, the language of a file decides alone. -/
theorem grammarAt_of_detect (hfilter : c.filter = none) {language : Value}
    (hdetect : c.detector.detect t p (t.read p).toOption = .ok language) :
    c.grammarAt t p = c.grammar? language := by
  rw [grammarAt, hdetect]
  show (c.grammar? language).map _ = _
  cases c.grammar? language with
  | error fault => rfl
  | ok found =>
    rw [hfilter]
    cases found <;> rfl

theorem grammarAt_of_not_settles (hfilter : c.filter = none) (hread : t.read p = .error e)
    (hknows : c.detector.Knows p) (hsettles : ¬c.detector.Settles p) :
    c.grammarAt t p = .ok (if c.countUnknown then some fallbackGrammar else none) := by
  obtain ⟨language, hlanguage, hnothing, hwritable⟩ :=
    Detector.languageOf_none_of_not_settles hknows hsettles
  rw [grammarAt_of_detect hfilter (Detector.detect_of_read_error hread hlanguage hwritable),
    grammar?, hnothing]
  rfl

/-- A file that cannot be read, though its name has a place in the registry, is listed without
lines and with the reason, if the name alone settles its language.  If several languages share its
extension it is listed as a file of no known language, or not at all. -/
theorem count_unreadable (hfilter : c.filter = none) (hread : t.read p = .error e)
    (hknows : c.detector.Knows p) :
    (∀ language, c.detector.placement p = .settled (.text language) → language ≠ "" →
      ∃ r, c.count t p = .ok (some r) ∧ r.Unread p e ∧ r.language = language) ∧
    (¬c.detector.Settles p → c.countUnknown = true →
      ∃ r, c.count t p = .ok (some r) ∧ r.Unread p e ∧ r.language = fallbackName) ∧
    (¬c.detector.Settles p → c.countUnknown = false → c.count t p = .ok none) := by
  refine ⟨?_, ?_, ?_⟩
  · intro language hplace hne
    have hcontains : c.detector.registry.contains language = true := by
      cases hknows with
      | settled name hname hregistry =>
        cases hplace.symm.trans hname
        exact hregistry
      | shared ext candidates hshared _ => cases hplace.symm.trans hshared
    obtain ⟨g, hlookup, hname⟩ := Registry.exists_lookup hcontains
    have hlanguage : c.detector.languageOf p none = .ok (.text language) := by
      rw [Detector.languageOf, hplace]
    have hsomething : (Value.text language).isNothing = false := by
      simpa [Value.isNothing] using hne
    have hgrammar : c.grammarAt t p = .ok (some g) := by
      rw [grammarAt_of_detect hfilter (Detector.detect_of_read_error hread hlanguage rfl), grammar?,
        hsomething, if_neg Bool.false_ne_true, Registry.lookupValue, hlookup]
      rfl
    exact ⟨_, count_of_read_error hread hgrammar, unread_unreadable p g e, hname⟩
  · intro hsettles hunknown
    have hgrammar := grammarAt_of_not_settles hfilter hread hknows hsettles
    rw [hunknown] at hgrammar
    exact ⟨_, count_of_read_error hread hgrammar, unread_unreadable p fallbackGrammar e, rfl⟩
  · intro hsettles hunknown
    have hgrammar := grammarAt_of_not_settles hfilter hread hknows hsettles
    rw [hunknown] at hgrammar
    exact count_of_read_error hread hgrammar

/-- Two directories under the names of files: of a Python file, and of a file that three languages
may claim. -/
theorem count_unreadable_directories :
    let t : FileTree := { root := [("b.py", .directory []), ("x.m", .directory [])] }
    let c : FileCounter := { encoder := List.length }
    t.read (.ofString "b.py") = .error .isDirectory ∧ c.detector.Knows (.ofString "b.py") ∧
      (∃ r, c.count t (.ofString "b.py") = .ok (some r) ∧
        r.Unread (.ofString "b.py") .isDirectory ∧ r.language = "Python") ∧
      t.read (.ofString "x.m") = .error .isDirectory ∧ c.detector.Knows (.ofString "x.m") ∧
      c.count t (.ofString "x.m") = .ok none ∧
      ∃ r, { c with countUnknown := true }.count t (.ofString "x.m") = .ok (some r) ∧
        r.Unread (.ofString "x.m") .isDirectory ∧ r.language = fallbackName := by
  intro t c
  have hread : ∀ name, name = "b.py" ∨ name = "x.m" →
      t.read (.ofString name) = .error .isDirectory := by
    rintro _ (rfl | rfl)
    · exact FileTree.read_of_directory (FileTree.get_of_entry "b.py" rfl (by decide) rfl nofun)
    · exact FileTree.read_of_directory (FileTree.get_of_entry "x.m" rfl (by decide) rfl nofun)
  have hsettled : c.detector.placement (.ofString "b.py") = .settled (.text "Python") := by
    decide
  have hshared : c.detector.placement (.ofString "x.m") =
      .shared "m" (["Objective-C", "MATLAB", "Mercury"].map .text) := by decide
  have hpython : c.detector.Knows (.ofString "b.py") := .settled _ hsettled (by decide)
  have hcandidates : c.detector.Knows (.ofString "x.m") := .shared _ _ hshared (by decide)
  have hsettles : ¬c.detector.Settles (.ofString "x.m") := by
    rintro ⟨language, hplace, -⟩
    rw [hshared] at hplace
    cases hplace
  have hb := hread "b.py" (.inl rfl)
  have hx := hread "x.m" (.inr rfl)
  have hnamed := (count_unreadable (c := c) rfl hb hpython).1
  have hleft := (count_unreadable (c := c) rfl hx hcandidates).2.2
  have hbucket := (count_unreadable (c := { c with countUnknown := true }) rfl hx hcandidates).2.1
  exact ⟨hb, hpython, hnamed "Python" hsettled (by decide), hx, hcandidates,
    hleft hsettles rfl, hbucket hsettles rfl⟩

/-- A directory under the name of a TypeScript file: no other language has the extension, and no
entry says that the file could not be read. -/
theorem count_unreadable_shared :
    let t : FileTree := { root := [("a.ts", .directory [])] }
    let c : FileCounter := { encoder := List.length }
    t.read (.ofString "a.ts") = .error .isDirectory ∧ c.filter = none ∧
      c.detector.placement (.ofString "a.ts") = .shared "ts" (["TypeScript"].map .text) ∧
      c.detector.Knows (.ofString "a.ts") ∧ c.count t (.ofString "a.ts") = .ok none := by
  intro t c
  have hread : t.read (.ofString "a.ts") = .error .isDirectory :=
    FileTree.read_of_directory (FileTree.get_of_entry "a.ts" rfl (by decide) rfl nofun)
  have hshared : c.detector.placement (.ofString "a.ts") =
      .shared "ts" (["TypeScript"].map .text) := by decide
  have hknows : c.detector.Knows (.ofString "a.ts") := .shared _ _ hshared (by decide)
  have hsettles : ¬c.detector.Settles (.ofString "a.ts") := by
    rintro ⟨language, hplace, -⟩
    rw [hshared] at hplace
    cases hplace
  exact ⟨hread, rfl, hshared, hknows,
    count_of_read_error hread (grammarAt_of_not_settles rfl hread hknows hsettles)⟩

end FileCounter

end LineCensus
