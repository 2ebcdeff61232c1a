import LineCensus.Detector
import LineCensus.Proofs.Fallible
import LineCensus.Registry.Load
import LineCensus.Yaml.Load

/-!
# Tables of additions

What becomes of the extensions that a table of languages adds to the bundled ones.  An entry takes
the place of the bundled language of its extension.  It does not take an extension from the bundled
languages that share it: those are still told apart by content.
-/

namespace LineCensus

namespace Registry

/-- What a section of a document says under a name; of several entries the last one counts. -/
def listed? (document : List (Value × Value)) (sectionName name : String) : Option Value :=
  match entriesOf (part document sectionName) with
  | .ok entries => Table.find? (namedEntries entries).reverse name
  | .error _ => none

theorem listed?_of_entriesOf {document entries : List (Value × Value)} {sectionName : String}
    (h : entriesOf (part document sectionName) = .ok entries) (name : String) :
    listed? document sectionName name = Table.find? (namedEntries entries).reverse name := by
  rw [listed?, h]

theorem keys_of_candidates {entries : List (Value × Value)}
    {candidates : List (Value × List Value)}
    (h : entries.mapM (fun entry => (candidatesOf entry.2).map fun names => (entry.1, names)) =
      .ok candidates) : candidates.map Prod.fst = entries.map Prod.fst := by
  have hall := Fallible.mapM_eq_ok.mp h
  clear h
  induction hall with
  | nil => rfl
  | cons hentry _ ih =>
    obtain ⟨names, -, rfl⟩ := Fallible.map_eq_ok.mp hentry
    rw [List.map_cons, List.map_cons, ih]

theorem mem_names_namedEntries {α : Type} {entries : List (Value × α)} {name : String} :
    name ∈ (namedEntries entries).map Prod.fst ↔ .text name ∈ entries.map Prod.fst := by
  induction entries with
  | nil => simp [namedEntries]
  | cons entry rest ih =>
    obtain ⟨key, value⟩ := entry
    rw [namedEntries] at ih ⊢
    cases key <;> simp_all [Value.text?]

theorem mem_keys_setEntries {α : Type} {entries additions : List (Value × α)} {key : Value}
    (h : key ∈ (setEntries entries additions).map Prod.fst) :
    key ∈ entries.map Prod.fst ∨ key ∈ additions.map Prod.fst := by
  induction additions generalizing entries with
  | nil => exact .inl h
  | cons addition rest ih =>
    obtain ⟨k, v⟩ := addition
    rw [List.map_cons, List.mem_cons]
    rcases ih h with h | h
    · rcases Value.mem_keys_setEntry h with rfl | h
      · exact .inr (.inl rfl)
      · exact .inl h
    · exact .inr (.inr h)

variable {r extended : Registry} {document : List (Value × Value)}

theorem exists_of_extend (h : r.extend document = .ok extended) :
    ∃ grammars extensions shared candidates,
      grammarsOf (part document "languages") = .ok grammars ∧
      entriesOf (part document "extensions") = .ok extensions ∧
      entriesOf (part document "ambiguous_extensions") = .ok shared ∧
      (setEntries [] shared).mapM
          (fun entry => (candidatesOf entry.2).map fun names => (entry.1, names)) =
        .ok candidates ∧
      extended.grammars = grammars.foldl addGrammar r.grammars ∧
      extended.extensions = r.extensions.update (namedEntries extensions) ∧
      extended.shared = r.shared.update (namedEntries candidates) := by
  obtain ⟨grammars, hgrammars, h⟩ := Fallible.bind_eq_ok.mp h
  obtain ⟨extensions, hextensions, h⟩ := Fallible.bind_eq_ok.mp h
  obtain ⟨shared, hshared, h⟩ := Fallible.bind_eq_ok.mp h
  obtain ⟨candidates, hcandidates, ⟨⟩⟩ := Fallible.bind_eq_ok.mp h
  exact ⟨grammars, extensions, shared, candidates, hgrammars, hextensions, hshared, hcandidates, rfl,
    rfl, rfl⟩

theorem find?_extensions_extend (h : r.extend document = .ok extended) (ext : String) :
    extended.extensions.find? ext =
      (listed? document "extensions" ext).or (r.extensions.find? ext) := by
  obtain ⟨-, entries, -, -, -, hentries, -, -, -, hextensions, -⟩ := exists_of_extend h
  rw [hextensions, Table.find?_update, listed?_of_entriesOf hentries]

theorem find?_shared_extend (h : r.extend document = .ok extended) {ext : String}
    (hunlisted : listed? document "ambiguous_extensions" ext = none) :
    extended.shared.find? ext = r.shared.find? ext := by
  obtain ⟨-, -, entries, candidates, -, -, hentries, hcandidates, -, -, hshared⟩ :=
    exists_of_extend h
  rw [listed?_of_entriesOf hentries] at hunlisted
  have hname : ext ∉ (namedEntries candidates).reverse.map Prod.fst := by
    have hlisted := Table.not_mem_names hunlisted
    rw [List.map_reverse, List.mem_reverse, mem_names_namedEntries] at hlisted ⊢
    rw [keys_of_candidates hcandidates]
    intro hkey
    rcases mem_keys_setEntries hkey with hnone | hkey
    · cases hnone
    · exact hlisted hkey
  rw [hshared, Table.find?_update, Table.find?_eq_none hname, Option.none_or]

theorem mem_names_addGrammar {grammars : List Grammar} {g : Grammar} {name : String}
    (h : name ∈ grammars.map (·.name)) : name ∈ (addGrammar grammars g).map (·.name) := by
  induction grammars with
  | nil => cases h
  | cons other rest ih =>
    rw [addGrammar]
    split
    · next hsame => rwa [List.map_cons, ← hsame]
    · rcases List.mem_cons.mp h with hfirst | hrest
      · exact List.mem_cons.mpr (.inl hfirst)
      · exact List.mem_cons_of_mem _ (ih hrest)

theorem contains_iff_mem_names {name : String} : r.contains name = true ↔ name ∈ r.names := by
  simp [contains, names]

theorem contains_extend (h : r.extend document = .ok extended) {name : String}
    (hname : r.contains name = true) : extended.contains name = true := by
  obtain ⟨grammars, -, -, -, -, -, -, -, hgrammars, -, -⟩ := exists_of_extend h
  rw [contains_iff_mem_names, names] at hname ⊢
  rw [hgrammars]
  exact List.foldlRecOn (motive := fun grammars => name ∈ grammars.map (·.name)) grammars addGrammar
    hname fun _ hmem _ _ => mem_names_addGrammar hmem

end Registry

namespace Detector

variable {d : Detector} {p : Path}

def Unnamed (p : Path) : Prop :=
  knownNames.find? p.name = none ∧ knownLowerNames.find? (Text.lower p.name) = none

instance : Decidable (Unnamed p) :=
  inferInstanceAs (Decidable (_ ∧ _))

theorem placement_of_shared (hname : Unnamed p) {candidates : List Value}
    (hshared : d.registry.shared.find? p.extension = some candidates) :
    d.placement p = .shared p.extension candidates := by
  rw [placement, hname.1, hname.2, hshared]

theorem placement_of_extension (hname : Unnamed p)
    (hshared : d.registry.shared.find? p.extension = none) {language : Value}
    (hextension : d.registry.extensions.find? p.extension = some language) :
    d.placement p = .settled language := by
  rw [placement, hname.1, hname.2, hshared, hextension]

theorem placement_of_unlisted (hname : Unnamed p)
    (hshared : d.registry.shared.find? p.extension = none)
    (hextension : d.registry.extensions.find? p.extension = none) :
    d.placement p = .unlisted p.extension := by
  rw [placement, hname.1, hname.2, hshared, hextension]

theorem detect_of_settled {language : Value} (hplace : d.placement p = .settled language)
    (t : FileTree) (content : Option (List UInt8)) : d.detect t p content = d.checked language := by
  rw [detect, languageOf, hplace]
  rfl

theorem eq_of_checked {answer language : Value} (h : d.checked answer = .ok language) :
    answer = language := by
  unfold checked at h
  split at h
  · cases h
  · exact Except.ok.inj h

/-- Only the languages that share the extension come into question, or the one that has all of its
files. -/
theorem mem_of_accept {ext : String} {answer language : Value} {candidates : List Value}
    (h : d.accept ext candidates answer = .ok language) :
    language = .null ∨ candidates.any (Value.sameKey · language) = true ∨
      ∃ name, siblings.find? ext = some name ∧ language = .text name := by
  unfold accept at h
  split at h
  · cases h
    exact .inl rfl
  · split at h
    · next name hsibling =>
      cases h
      exact .inr (.inr ⟨name, hsibling, rfl⟩)
    · obtain ⟨found, -, hfound⟩ := Fallible.map_eq_ok.mp h
      split at hfound
      · next hmem => exact .inr (.inl (hfound ▸ hmem))
      · exact .inl hfound.symm

theorem mem_of_detect_shared {ext : String} {language : Value} {candidates : List Value}
    (hplace : d.placement p = .shared ext candidates) {t : FileTree}
    {content : Option (List UInt8)} (h : d.detect t p content = .ok language) :
    language = .null ∨ candidates.any (Value.sameKey · language) = true ∨
      ∃ name, siblings.find? ext = some name ∧ language = .text name := by
  obtain ⟨answer, hanswer, hchecked⟩ := Fallible.bind_eq_ok.mp h
  cases eq_of_checked hchecked
  rw [languageOf, hplace] at hanswer
  dsimp only at hanswer
  split at hanswer
  · obtain ⟨choice, -, haccept⟩ := Fallible.bind_eq_ok.mp hanswer
    exact mem_of_accept haccept
  · cases hanswer
    exact .inl rfl

end Detector

/-! ## Judges that choose -/

/-- The judge has no answers but candidates. -/
def Judge.Chooses (judge : Judge) : Prop :=
  ∀ p content candidates answer, judge p content candidates = .ok answer →
    answer = .null ∨ answer ∈ candidates

theorem Content.leader_mem {σ : Type} [LT σ] [DecidableLT σ] (first : Value × σ)
    (others : List (Value × σ)) : leader first others ∈ first :: others := by
  induction others generalizing first with
  | nil => exact List.mem_singleton.mpr rfl
  | cons next rest ih =>
    rw [leader, List.foldl_cons, ← leader]
    obtain hbest | hrest := List.mem_cons.mp (ih (if first.2 < next.2 then next else first))
    · rw [hbest]
      split
      · exact List.mem_cons_of_mem _ List.mem_cons_self
      · exact List.mem_cons_self
    · exact List.mem_cons_of_mem _ (List.mem_cons_of_mem _ hrest)

theorem scoreJudge_chooses {σ : Type} [LT σ] [DecidableLT σ] (score : Value → List Char → σ) :
    (scoreJudge score).Chooses := by
  intro p content candidates answer h
  rw [scoreJudge, Content.guessBy] at h
  split at h
  · cases h
  · split at h
    · cases h
      exact .inl rfl
    · next first others hscored =>
      cases h
      have hmem := Content.leader_mem first others
      rw [← hscored] at hmem
      obtain ⟨language, hlanguage, hfirst⟩ := List.mem_map.mp hmem
      rw [← hfirst]
      exact .inr hlanguage

theorem contentJudge_chooses : contentJudge.Chooses :=
  scoreJudge_chooses Content.score

namespace Registry

theorem answerFor_of_contains {r : Registry} {name : String} (h : r.contains name = true)
    (hne : name ≠ "") : r.answerFor name = .text name := by
  rw [answerFor, if_neg (by simpa using hne), if_pos h]

theorem bundled_candidates_known :
    ∀ entry ∈ Bundled.sharedExtensions, ∀ name ∈ entry.2,
      name ≠ "" ∧ bundled.contains name = true := by
  decide

theorem exists_names_of_shared {ext : String} {candidates : List Value}
    (h : bundled.shared.find? ext = some candidates) :
    ∃ names : List String, candidates = names.map .text ∧
      ∀ name ∈ names, name ≠ "" ∧ bundled.contains name = true := by
  have hmap : bundled.shared.find? ext =
      (Table.find? Bundled.sharedExtensions ext).map (·.map .text) :=
    Table.find?_map (List.map Value.text) Bundled.sharedExtensions ext
  obtain ⟨names, hfind, hnames⟩ := Option.map_eq_some_iff.mp (hmap.symm.trans h)
  exact ⟨names, hnames.symm, bundled_candidates_known _ (Table.mem_of_find? hfind)⟩

end Registry

namespace Detector

variable {d : Detector} {p : Path} {t : FileTree} {content : Option (List UInt8)}

theorem accept_of_known {ext answer : String} {candidates : List Value}
    (hmem : .text answer ∈ candidates) (hne : answer ≠ "")
    (hknown : d.registry.contains answer = true) :
    d.accept ext candidates (.text answer) =
      .ok (((siblings.find? ext).map .text).getD (.text answer)) := by
  have hsomething : (Value.text answer).isNothing = false := by simpa [Value.isNothing] using hne
  rw [accept, hsomething, if_neg Bool.false_ne_true]
  cases siblings.find? ext with
  | some language => rfl
  | none =>
    dsimp only
    rw [Registry.answerTo, Registry.answerFor_of_contains hknown hne]
    have hany : candidates.any (Value.sameKey · (.text answer)) = true :=
      List.any_eq_true.mpr ⟨_, hmem, Value.sameKey_text_iff.mpr rfl⟩
    exact congrArg Except.ok (if_pos hany)

/-- What a judge chooses between known languages does not depend on what else the registry says. -/
theorem languageOf_of_chooses {r' : Registry} {ext : String} {names : List String}
    (hplace : d.placement p = .shared ext (names.map .text))
    (hplace' : { d with registry := r' }.placement p = .shared ext (names.map .text))
    (hchooses : ∀ judge ∈ d.judge, judge.Chooses) (hne : ∀ name ∈ names, name ≠ "")
    (hknown : ∀ name ∈ names, d.registry.contains name = true)
    (hknown' : ∀ name ∈ names, r'.contains name = true)
    (content line : Option (List UInt8)) :
    d.languageOf p content line = { d with registry := r' }.languageOf p content line := by
  rw [languageOf, languageOf, hplace, hplace']
  dsimp only
  cases hjudge : d.judge with
  | none => rfl
  | some judge =>
    cases content with
    | none => rfl
    | some content =>
      dsimp only
      cases hanswer : judge p content (names.map .text) with
      | error fault => rfl
      | ok answer =>
        show d.accept _ _ answer = { d with registry := r' }.accept _ _ answer
        obtain rfl | hmem := hchooses judge hjudge p content _ answer hanswer
        · rfl
        · obtain ⟨name, hname, rfl⟩ := List.mem_map.mp hmem
          rw [accept_of_known hmem (hne name hname) (hknown name hname),
            accept_of_known hmem (hne name hname) (hknown' name hname)]

/-- An extension that a table of additions lists, and does not share, is of the listed language,
whatever a file holds, unless bundled languages share it: then a file is of one of those.  A judge
that chooses, such as the one by content, then comes to the same as with any other table that does
not share the extension, whether or not that lists it. -/
theorem detect_listed {parse : Yaml.Reader} {file : String} {table : List UInt8}
    {document : List (Value × Value)} {r : Registry}
    (hdocument : Registry.document parse file table = .ok document)
    (hload : Registry.load parse file table = .ok r) (hname : Unnamed p) {language : String}
    (hlisted : Registry.listed? document "extensions" p.extension = some (.text language))
    (hunshared : Registry.listed? document "ambiguous_extensions" p.extension = none)
    (judge : Option Judge) (watched : Bool) (t : FileTree) (content : Option (List UInt8)) :
    let d : Detector := { registry := r, judge, watched }
    (Registry.bundled.shared.find? p.extension = none →
      d.detect t p content = .ok (.text language)) ∧
    (∀ candidates, Registry.bundled.shared.find? p.extension = some candidates →
      ∀ found, d.detect t p content = .ok found →
        found = .null ∨ found ∈ candidates ∨
          ∃ name, siblings.find? p.extension = some name ∧ found = .text name) ∧
    ((Registry.bundled.shared.find? p.extension).isSome = true →
      (∀ j ∈ judge, j.Chooses) → ∀ document' r', Registry.bundled.extend document' = .ok r' →
        Registry.listed? document' "ambiguous_extensions" p.extension = none →
        d.detect t p content = { d with registry := r' }.detect t p content) ∧
    contentJudge.Chooses := by
  intro d
  have hextend : Registry.bundled.extend document = .ok r := by
    rw [Registry.load, hdocument] at hload
    exact hload
  have hshared : r.shared.find? p.extension = Registry.bundled.shared.find? p.extension :=
    Registry.find?_shared_extend hextend hunshared
  refine ⟨fun hfree => ?_, fun candidates hcandidates found hfound => ?_,
    fun hsome hchooses document' r' hextend' hunshared' => ?_, contentJudge_chooses⟩
  · have hextension : r.extensions.find? p.extension = some (.text language) := by
      rw [Registry.find?_extensions_extend hextend, hlisted]
      rfl
    have hplace := placement_of_extension (d := d) hname (hshared.trans hfree) hextension
    rw [detect_of_settled hplace, checked_of_writable rfl]
  · have hplace := placement_of_shared (d := d) hname (hshared.trans hcandidates)
    obtain ⟨names, rfl, -⟩ := Registry.exists_names_of_shared hcandidates
    refine (mem_of_detect_shared hplace hfound).imp_right (Or.imp_left fun hany => ?_)
    obtain ⟨candidate, hmem, hsame⟩ := List.any_eq_true.mp hany
    obtain ⟨name, -, rfl⟩ := List.mem_map.mp hmem
    rwa [Value.text_sameKey_iff.mp hsame]
  · obtain ⟨candidates, hcandidates⟩ := Option.isSome_iff_exists.mp hsome
    obtain ⟨names, rfl, hnames⟩ := Registry.exists_names_of_shared hcandidates
    have hshared' := Registry.find?_shared_extend hextend' hunshared'
    have hplace := placement_of_shared (d := d) hname (hshared.trans hcandidates)
    have hplace' := placement_of_shared (d := { d with registry := r' }) hname
      (hshared'.trans hcandidates)
    exact congrArg (· >>= d.checked) (languageOf_of_chooses hplace hplace' hchooses
      (fun name hmem => (hnames name hmem).1)
      (fun name hmem => Registry.contains_extend hextend (hnames name hmem).2)
      (fun name hmem => Registry.contains_extend hextend' (hnames name hmem).2) _ _)

/-- A table that gives the extension of Python to Go, and that of MATLAB, which others share. -/
theorem detect_listed_anew :
    let table := Text.Utf8.encode "extensions:\n  py: Go\n  m: Go\n".toList
    let document : List (Value × Value) :=
      [(.text "extensions", .mapping [(.text "py", .text "Go"), (.text "m", .text "Go")])]
    let p : Path := .ofString "a.py"
    let q : Path := .ofString "a.m"
    let comment := Text.Utf8.encode "% y".toList
    Registry.bundled.extensions.find? p.extension = some (.text "Python") ∧
      (Registry.bundled.shared.find? q.extension).isSome = true ∧
      Registry.document Yaml.load "l.yaml" table = .ok document ∧
      ∃ r, Registry.load Yaml.load "l.yaml" table = .ok r ∧ Unnamed p ∧
        Registry.listed? document "extensions" p.extension = some (.text "Go") ∧
        Registry.listed? document "ambiguous_extensions" p.extension = none ∧
        Detector.detect { registry := r } {} p (some []) = .ok (.text "Go") ∧ Unnamed q ∧
        Registry.listed? document "extensions" q.extension = some (.text "Go") ∧
        Registry.listed? document "ambiguous_extensions" q.extension = none ∧
        Detector.detect { registry := r } {} q (some comment) = .ok (.text "MATLAB") := by
  intro table document p q comment
  have hdocument : Registry.document Yaml.load "l.yaml" table = .ok document :=
    Fallible.toOption_eq_some.mp (by decide +kernel)
  obtain ⟨r, hload⟩ : ∃ r, Registry.load Yaml.load "l.yaml" table = .ok r := by
    rw [Registry.load, hdocument]
    exact ⟨_, rfl⟩
  have hname : Unnamed p := by decide
  have hlisted : Registry.listed? document "extensions" p.extension = some (.text "Go") := by
    decide
  have hunshared : Registry.listed? document "ambiguous_extensions" p.extension = none := by
    decide
  have hfree : Registry.bundled.shared.find? p.extension = none := by decide
  have hdetect := (detect_listed hdocument hload hname hlisted hunshared (some contentJudge) false {}
    (some [])).1 hfree
  have hname' : Unnamed q := by decide
  have hlisted' : Registry.listed? document "extensions" q.extension = some (.text "Go") := by
    decide
  have hunshared' : Registry.listed? document "ambiguous_extensions" q.extension = none := by
    decide
  have hsome : (Registry.bundled.shared.find? q.extension).isSome = true := by decide
  have hsame := (detect_listed hdocument hload hname' hlisted' hunshared' (some contentJudge) false
    {} (some comment)).2.2.1 hsome (by rintro _ ⟨⟩; exact contentJudge_chooses) [] .bundled rfl rfl
  have hmatlab : Detector.detect {} {} q (some comment) = .ok (.text "MATLAB") := by decide +kernel
  exact ⟨by decide, hsome, hdocument, r, hload, hname, hlisted, hunshared, hdetect, hname',
    hlisted', hunshared', hsame.trans hmatlab⟩

/-- A table that gives the extension `ts` to Go.  The bundled table shares it, with TypeScript for
its only language, and a file stays one of TypeScript. -/
theorem detect_listed_shared :
    let table := Text.Utf8.encode "extensions:\n  ts: Go\n".toList
    let document : List (Value × Value) := [(.text "extensions", .mapping [(.text "ts", .text "Go")])]
    let p : Path := .ofString "a.ts"
    Registry.document Yaml.load "l.yaml" table = .ok document ∧
      ∃ r, Registry.load Yaml.load "l.yaml" table = .ok r ∧ r.contains "Go" = true ∧ Unnamed p ∧
        Registry.listed? document "extensions" p.extension = some (.text "Go") ∧
        Registry.listed? document "ambiguous_extensions" p.extension = none ∧
        Detector.detect { registry := r } {} p (some []) = .ok (.text "TypeScript") := by
  intro table document p
  have hdocument : Registry.document Yaml.load "l.yaml" table = .ok document :=
    Fallible.toOption_eq_some.mp (by decide +kernel)
  let r : Registry :=
    { Registry.bundled with extensions := Registry.bundled.extensions.set "ts" (.text "Go") }
  have hload : Registry.load Yaml.load "l.yaml" table = .ok r := by
    rw [Registry.load, hdocument]
    rfl
  exact ⟨hdocument, r, hload, by decide, by decide, by decide,
    by decide, by decide⟩

end Detector

end LineCensus
