import LineCensus.Options
import LineCensus.Proofs.Settings.Overlay

/-!
# Options and the values they are read from

What is known of options that were accepted: each is what the check of its own field says, and a
section of a configuration is read by its text keys alone.
-/

namespace LineCensus

namespace Schema

theorem Checked.also_eq_ok {α β : Type} {f : Checked (α → β)} {x : Checked α} {b : β} :
    f.also x = .ok b ↔ ∃ a, x = .ok a ∧ f.map (fun g => g a) = .ok b := by
  cases f with
  | error e => cases x <;> exact ⟨nofun, fun ⟨_, _, h⟩ => nomatch h⟩
  | ok g =>
    cases x with
    | error e => exact ⟨nofun, fun ⟨_, h, _⟩ => nomatch h⟩
    | ok a => exact ⟨fun h => ⟨a, rfl, h⟩, fun ⟨_, ha, h⟩ => by cases ha; exact h⟩

theorem Checked.map_also {α β γ : Type} (f : Checked (α → β)) (x : Checked α) (k : β → γ) :
    (f.also x).map k = Checked.also (f.map fun g a => k (g a)) x := by
  cases f <;> cases x <;> rfl

theorem Checked.map_also_eq_ok {α β γ : Type} {f : Checked (α → β)} {x : Checked α} {k : β → γ}
    {c : γ} :
    (f.also x).map k = .ok c ↔ ∃ a, x = .ok a ∧ f.map (fun g => k (g a)) = .ok c := by
  rw [map_also, also_eq_ok]
  cases f <;> rfl

theorem optional_eq_ok {α : Type} {fields : Fields} {name : String} {v : Value}
    (h : Table.find? fields name = some v) {default a : α}
    {check : Value → Checked α} : optional fields name default check = .ok a ↔ check v = .ok a := by
  obtain ⟨field, hfield, rfl⟩ := Option.map_eq_some_iff.mp h
  rw [optional, Checked.under, Fallible.mapError_eq_ok, hfield]
  rfl

end Schema

namespace Options

open Schema

/-- The options are those of the fields, each by its own check. -/
structure Reads (fields : Fields) (o : Options) : Prop where
  excludeExt : itemsField fields "exclude_ext" extensionsOf = .ok (.ok o.excludeExt)
  includeLang : itemsField fields "include_lang" languagesOf = .ok (.ok o.includeLang)
  nameMatch : optional fields "match" none (orNull asText) = .ok o.nameMatch
  nameNotMatch : optional fields "not_match" none (orNull asText) = .ok o.nameNotMatch
  dirMatch : optional fields "match_dir" none (orNull asText) = .ok o.dirMatch
  dirNotMatch : optional fields "not_match_dir" none (orNull asText) = .ok o.dirNotMatch
  skipDuplicates : optional fields "skip_duplicated" false asTruth = .ok o.skipDuplicates
  includeHidden : optional fields "include_hidden" false asTruth = .ok o.includeHidden
  respectGitignore : optional fields "respect_gitignore" true asTruth = .ok o.respectGitignore
  countUnknown : optional fields "unknown_language" false asTruth = .ok o.countUnknown
  countTokens : optional fields "count_tokens" false asTruth = .ok o.countTokens
  jobs : optional fields "jobs" none (orNull asInteger) = .ok o.jobs
  lineLimit : optional fields "max_line_length" defaultLineLimit asLineLimit = .ok o.lineLimit

theorem ofFields_eq_ok {fields : Fields} {o : Options} :
    ofFields fields = .ok o ↔ Reads fields o := by
  simp only [ofFields, Fallible.bind_eq_ok, named, Fallible.mapError_eq_ok, Checked.also_eq_ok,
    Checked.map_also_eq_ok]
  constructor
  · rintro ⟨excludeExt, hexclude, _, hinclude, _, hlimit, _, hjobs, _, htokens, _, hunknown,
      _, hgitignore, _, hhidden, _, hskip, _, hnotDir, _, hdir, _, hnotName, _, hname, _, rfl, h⟩
    -- the first field is looked at last
    cases excludeExt with
    | error faults => cases h
    | ok _ =>
      cases h
      exact ⟨hexclude, hinclude, hname, hnotName, hdir, hnotDir, hskip, hhidden, hgitignore,
        hunknown, htokens, hjobs, hlimit⟩
  · rintro ⟨hexclude, hinclude, hname, hnotName, hdir, hnotDir, hskip, hhidden, hgitignore,
      hunknown, htokens, hjobs, hlimit⟩
    exact ⟨_, hexclude, _, hinclude, _, hlimit, _, hjobs, _, htokens, _, hunknown, _, hgitignore,
      _, hhidden, _, hskip, _, hnotDir, _, hdir, _, hnotName, _, hname, _, rfl, rfl⟩

/-! ## The section of a configuration -/

variable {fields split : Fields}

def fieldOf (entry : Value × Value) : Option (String × Value) :=
  match entry.1 with
  | .text name => if presentationNames.contains name then none else some (name, entry.2)
  | _ => none

theorem knownFields_eq_ok {entries : List (Value × Value)}
    (h : knownFields entries = .ok fields) : entries.filterMap fieldOf = fields := by
  rw [knownFields] at h
  split at h <;> cases h
  rfl

theorem fieldOf_eq_some {key v : Value} {field : String × Value} :
    fieldOf (key, v) = some field ↔
      ∃ name, key = .text name ∧ name ∉ presentationNames ∧ field = (name, v) := by
  cases key <;> simp [fieldOf, eq_comm]

theorem find?_knownFields {entries : List (Value × Value)}
    (h : knownFields entries = .ok fields) {name : String} (hname : name ∉ presentationNames) :
    Table.find? fields name = Value.entry? entries name := by
  rw [← knownFields_eq_ok h]
  clear h
  induction entries with
  | nil => rfl
  | cons entry rest ih =>
    obtain ⟨key, v⟩ := entry
    rw [Value.entry?_cons, List.filterMap_cons, ← ih]
    cases hfield : fieldOf (key, v) with
    | none =>
      have hkey : Value.sameKey key (.text name) = false := by
        rw [Bool.eq_false_iff]
        intro hkey
        have hthere : fieldOf (key, v) = some (name, v) :=
          fieldOf_eq_some.mpr ⟨name, Value.sameKey_text_iff.mp hkey, hname, rfl⟩
        rw [hfield] at hthere
        cases hthere
      rw [hkey]
      rfl
    | some field =>
      obtain ⟨given, rfl, -, rfl⟩ := fieldOf_eq_some.mp hfield
      have htext : Value.sameKey (.text given) (.text name) = (given == name) := rfl
      dsimp only
      rw [Table.find?, List.find?_cons, htext]
      cases given == name <;> rfl

/-! What stands for a list is split into its items. -/

theorem itemsOf_texts (items : List String) : itemsOf (.list (items.map .text)) = .ok items := by
  have hwritable : (items.map Value.text).all (·.isWritable) = true := by
    rw [List.all_map]
    exact List.all_eq_true.mpr fun _ _ => rfl
  have hshown : (Value.shown ∘ Value.text) = id := rfl
  rw [itemsOf, inWords, if_pos hwritable, List.map_map, hshown, List.map_id]

theorem find?_splitField_self {name : String} (h : splitField name fields = .ok split) {v : Value}
    (hfield : Table.find? fields name = some v) :
    ∃ items, itemsOf v = .ok items ∧
      Table.find? split name = some (.list ((trimmedItems items).map .text)) := by
  rw [splitField, hfield] at h
  obtain ⟨items, hitems, rfl⟩ := Fallible.map_eq_ok.mp h
  exact ⟨items, Fallible.mapError_eq_ok.mp hitems, Table.find?_set_self _ _ _⟩

theorem find?_splitField_of_ne {name other : String} (h : splitField name fields = .ok split)
    (hne : other ≠ name) : Table.find? split other = Table.find? fields other := by
  rw [splitField] at h
  split at h
  · obtain ⟨items, -, rfl⟩ := Fallible.map_eq_ok.mp h
    exact Table.find?_set_of_ne _ _ hne
  · cases h
    rfl

theorem find?_splitFields_list (h : splitFields fields = .ok split) {name : String}
    (hname : name = "exclude_ext" ∨ name = "include_lang") {v : Value}
    (hfield : Table.find? fields name = some v) :
    ∃ items, itemsOf v = .ok items ∧
      Table.find? split name = some (.list ((trimmedItems items).map .text)) := by
  obtain ⟨between, hexclude, hinclude⟩ := Fallible.bind_eq_ok.mp h
  obtain rfl | rfl := hname
  · obtain ⟨items, hitems, hlist⟩ := find?_splitField_self hexclude hfield
    exact ⟨items, hitems, (find?_splitField_of_ne hinclude (by decide)).trans hlist⟩
  · exact find?_splitField_self hinclude
      ((find?_splitField_of_ne hexclude (by decide)).trans hfield)

theorem find?_splitFields (h : splitFields fields = .ok split) {name : String}
    (hexclude : name ≠ "exclude_ext") (hinclude : name ≠ "include_lang") :
    Table.find? split name = Table.find? fields name := by
  obtain ⟨between, hfirst, hsecond⟩ := Fallible.bind_eq_ok.mp h
  rw [find?_splitField_of_ne hsecond hinclude, find?_splitField_of_ne hfirst hexclude]

theorem find?_splitField_eq_none {name other : String} (h : splitField name fields = .ok split)
    (hnone : Table.find? fields other = none) : Table.find? split other = none := by
  by_cases hother : other = name
  · subst hother
    rw [splitField, hnone] at h
    cases h
    exact hnone
  · exact (find?_splitField_of_ne h hother).trans hnone

theorem find?_splitFields_eq_none (h : splitFields fields = .ok split) {name : String}
    (hnone : Table.find? fields name = none) : Table.find? split name = none := by
  obtain ⟨between, hfirst, hsecond⟩ := Fallible.bind_eq_ok.mp h
  exact find?_splitField_eq_none hsecond (find?_splitField_eq_none hfirst hnone)

/-- Apart from the two lists, the fields are the entries of the section. -/
theorem ofSection_eq_ok {entries : List (Value × Value)} {o : Options}
    (h : ofSection entries = .ok o) :
    ∃ fields, Reads fields o ∧ ∀ name, name ∉ presentationNames → name ≠ "exclude_ext" →
      name ≠ "include_lang" →
      Table.find? fields name = Value.entry? entries name := by
  obtain ⟨known, hknown, h⟩ := Fallible.bind_eq_ok.mp h
  obtain ⟨fields, hfields, h⟩ := Fallible.bind_eq_ok.mp h
  refine ⟨fields, ofFields_eq_ok.mp h, ?_⟩
  intro name hname hexclude hinclude
  rw [find?_splitFields hfields hexclude hinclude, find?_knownFields hknown hname]

theorem jobs_of_ofSection {entries : List (Value × Value)} {o : Options} {n : Int}
    (h : ofSection entries = .ok o) (hentry : Value.entry? entries "jobs" = some (.int n)) :
    o.jobs = some n := by
  obtain ⟨fields, hreads, hfields⟩ := ofSection_eq_ok h
  have hfield := hfields "jobs" (by decide) (by decide) (by decide)
  have hjobs := (optional_eq_ok (hfield.trans hentry)).mp hreads.jobs
  exact (Except.ok.inj hjobs).symm

end Options

end LineCensus
