import LineCensus.Proofs.Language.LeftOut
import LineCensus.Proofs.Survey.Entries

/-!
# Surveys of named languages

A survey may be asked for some languages only.  It then lists no file of another language, as long
as one of the names it was given is in the registry.  Names that are not in the registry are passed
over, and a survey that is left without any name counts every language.
-/

namespace LineCensus

namespace LanguageChoice

theorem mem_includeLang_make {r : Registry} {excludeExt names : List String}
    {choice : LanguageChoice} (hmake : make r excludeExt names = .ok choice) {language : String} :
    language ∈ choice.includeLang ↔ language ∈ names ∧ r.contains language = true := by
  rw [(make_eq_ok.mp hmake).2, List.mem_eraseDups, List.mem_filter]

theorem mem_of_admits {r : Registry} {excludeExt names : List String} {choice : LanguageChoice}
    (hmake : make r excludeExt names = .ok choice)
    (hknown : ∃ name ∈ names, r.contains name = true) {p : Path} {language : String}
    (h : choice.admits p language = true) : language ∈ names ∧ r.contains language = true := by
  obtain ⟨name, hname⟩ := hknown
  have hmem := (mem_includeLang_make hmake).mpr hname
  obtain hnone | hlanguage := (admits_eq_true_iff.mp h).2.2.2
  · rw [hnone] at hmem
    cases hmem
  · exact (mem_includeLang_make hmake).mp hlanguage

theorem make_of_unknown {r : Registry} {names : List String}
    (hunknown : ∀ name ∈ names, r.contains name = false) (excludeExt : List String) :
    make r excludeExt names = make r excludeExt [] := by
  have hnone : names.filter r.contains = [] := by
    rw [List.filter_eq_nil_iff]
    intro name hname
    rw [hunknown name hname]
    exact Bool.false_ne_true
  rw [make, hnone]
  rfl

end LanguageChoice

namespace Survey

variable {s : Survey} {t : FileTree}

/-- The same survey, asked for these languages; none means all of them. -/
def including (s : Survey) (names : List String) : Survey :=
  { s with options := { s.options with includeLang := names } }

theorem admits_of_mem_counted {counter : FileCounter} (hcounter : s.counter = .ok counter)
    {files : List Path} {r : FileEntry} (h : r ∈ counter.counted t files) :
    ∃ choice p, s.choice = .ok choice ∧ choice.admits p r.language = true := by
  obtain ⟨choice, hchoice, rfl⟩ := counter_eq_ok.mp hcounter
  obtain ⟨p, -, hcount⟩ := FileCounter.mem_counted.mp h
  have hadmits := ((s.counterFor choice).count_filter choice t p).mp hcount
  exact ⟨choice, p, hchoice, hadmits.2⟩

/-- Names that the registry does not have are as good as none. -/
theorem take_of_unknown
    (hunknown : ∀ name ∈ s.options.includeLang, s.detector.registry.contains name = false)
    (t : FileTree) (paths : List Path) : s.take t paths = (s.including []).take t paths := by
  have hcounter : s.counter = (s.including []).counter := by
    rw [counter, choice, LanguageChoice.make_of_unknown hunknown]
    rfl
  rw [take, take, hcounter]
  rfl

/-- A survey that is asked for languages, one of which at least the registry has, lists no file of
another language.  Asked for unknown languages only, it is the survey of all languages. -/
theorem take_including (s : Survey) (t : FileTree) (paths : List Path) :
    ((∃ name ∈ s.options.includeLang, s.detector.registry.contains name = true) →
      ∀ c, s.take t paths = .ok c → ∀ r ∈ c.files,
        r.language ∈ s.options.includeLang ∧ s.detector.registry.contains r.language = true) ∧
    ((∀ name ∈ s.options.includeLang, s.detector.registry.contains name = false) →
      s.take t paths = (s.including []).take t paths) := by
  refine ⟨?_, fun hunknown => take_of_unknown hunknown t paths⟩
  intro hknown c htake r hr
  obtain ⟨files, counter, -, hcounter, hcounted⟩ := exists_mem_counted htake hr
  obtain ⟨choice, p, hchoice, hadmits⟩ := admits_of_mem_counted hcounter hcounted
  exact LanguageChoice.mem_of_admits hchoice hknown hadmits

/-- Of two names one is known: the file in the other language is left out. -/
theorem take_including_one_known :
    let t : FileTree := { root := [("a.go", .file [0x78]), ("b.py", .file [0x78])] }
    let s : Survey := { options := { includeLang := ["Go", "NotALanguage"] }, encoder := List.length }
    let lost : Survey := { options := { includeLang := ["NotALanguage"] }, encoder := List.length }
    (∃ name ∈ s.options.includeLang, s.detector.registry.contains name = true) ∧
      (∃ c, s.take t [.ofString "."] = .ok c ∧ (∃ r ∈ c.files, r.path = "a.go") ∧
        ∀ r ∈ c.files, r.language ∈ s.options.includeLang) ∧
      (∀ name ∈ lost.options.includeLang, lost.detector.registry.contains name = false) ∧
      lost.take t [.ofString "."] = (lost.including []).take t [.ofString "."] := by
  intro t s lost
  let counter := s.counterFor ⟨[], [], ["Go"]⟩
  have hcounter : s.counter = .ok counter := rfl
  have hgo : s.detector.registry.contains "Go" = true := by decide
  have hknown : ∃ name ∈ s.options.includeLang, s.detector.registry.contains name = true :=
    ⟨"Go", List.mem_cons_self, hgo⟩
  have hunknown : ∀ name ∈ lost.options.includeLang,
      lost.detector.registry.contains name = false := by decide
  have hfiles : s.files t [.ofString "."] = .ok [.ofString "a.go", .ofString "b.py"] := by cbv
  have hread : t.read (.ofString "a.go") = .ok [0x78] :=
    FileTree.read_of_entry "a.go" rfl (by decide) rfl
  have hread' : t.read (.ofString "b.py") = .ok [0x78] :=
    FileTree.read_of_entry "b.py" rfl (by decide) rfl
  have hlimit : counter.lineLimit + 1 ≤ Line.largestRequest := by decide
  have hpython : counter.grammarAt t (.ofString "b.py") = .ok none :=
    (FileCounter.grammarAt_of_read hread').trans (by decide)
  have hnamed : (counter.grammarAt t (.ofString "a.go")).map (Option.map Grammar.name) =
      .ok (some "Go") := by
    rw [FileCounter.grammarAt_of_read hread]
    decide
  obtain ⟨r, hcount, hpath, -⟩ := FileCounter.exists_entry hlimit hnamed
  have hcounts : counter.Counts t [.ofString "a.go", .ofString "b.py"] :=
    List.forall_mem_cons.mpr ⟨⟨_, hcount⟩, List.forall_mem_singleton.mpr
      (FileCounter.exists_count hlimit hpython)⟩
  have htake := take_eq_ok.mpr ⟨_, _, hfiles, hcounter, rfl, hcounts, rfl⟩
  have hentry := mem_files_of_count htake rfl hfiles hcounter List.mem_cons_self hcount
  have honly := (take_including s t [.ofString "."]).1 hknown _ htake
  refine ⟨hknown, ⟨_, htake, ⟨r, hentry, hpath⟩, fun r hr => (honly r hr).1⟩, hunknown, ?_⟩
  exact (take_including lost t [.ofString "."]).2 hunknown

/-- A single name that is not known: a file of another language is counted. -/
theorem take_including_unregistered :
    let t : FileTree := { root := [("a.go", .file [0x78])] }
    let s : Survey := { options := { includeLang := ["NotALanguage"] }, encoder := List.length }
    s.options.includeLang ≠ [] ∧
      ∃ c, s.take t [.ofString "."] = .ok c ∧
        ∃ r ∈ c.files, r.language ∉ s.options.includeLang := by
  intro t s
  let counter := s.counterFor ⟨[], [], []⟩
  have hcounter : s.counter = .ok counter := rfl
  have hfiles : s.files t [.ofString "."] = .ok [.ofString "a.go"] := by cbv
  have hread : t.read (.ofString "a.go") = .ok [0x78] :=
    FileTree.read_of_entry "a.go" rfl (by decide) rfl
  have hnamed : (counter.grammarAt t (.ofString "a.go")).map (Option.map Grammar.name) =
      .ok (some "Go") := by
    rw [FileCounter.grammarAt_of_read hread]
    decide
  obtain ⟨r, hcount, -, hlanguage⟩ := FileCounter.exists_entry (by decide) hnamed
  have hcounts : counter.Counts t [.ofString "a.go"] :=
    List.forall_mem_singleton.mpr ⟨_, hcount⟩
  have htake := take_eq_ok.mpr ⟨_, _, hfiles, hcounter, rfl, hcounts, rfl⟩
  have hentry := mem_files_of_count htake rfl hfiles hcounter List.mem_cons_self hcount
  refine ⟨List.cons_ne_nil _ _, _, htake, r, hentry, ?_⟩
  rw [hlanguage]
  decide

end Survey

end LineCensus
