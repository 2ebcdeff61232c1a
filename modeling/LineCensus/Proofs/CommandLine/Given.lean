import LineCensus.Proofs.CommandLine.Plan
import LineCensus.Proofs.Settings.Refusals
import Mathlib.Data.List.Nodup

/-!
# What the command line says, and what a section says

Most options of a count can be given on the command line or in the section of a configuration,
under the same names.  A list of settings that says what the command line says makes the options
that the command line asks for, wherever its entries come from; the rest of the settings decides
about the two options that only a configuration has, and whether there are options at all.
-/

namespace LineCensus

open Schema

/-! ## Settings that say what was given -/

namespace Settings

/-- Whatever is given stands under its name, and nothing else does.  What counts as nothing may be
left out. -/
structure Said (given : List (String × Value)) (settings : List (Value × Value)) : Prop where
  stands : ∀ name v, (name, v) ∈ given → isUnset v = false → (.text name, v) ∈ settings
  only : ∀ name v w, (name, v) ∈ given → (.text name, w) ∈ settings → w = v

variable {given : List (String × Value)} {settings : List (Value × Value)} {name : String}
  {v : Value}

theorem said_iff : Said given settings ↔
    (∀ option ∈ given, isUnset option.2 = false → (.text option.1, option.2) ∈ settings) ∧
      ∀ option ∈ given, ∀ entry ∈ settings, entry.1 = .text option.1 → entry.2 = option.2 := by
  constructor
  · intro h
    refine ⟨fun option => h.stands option.1 option.2, ?_⟩
    rintro option hoption ⟨_, w⟩ hentry rfl
    exact h.only option.1 option.2 w hoption hentry
  · rintro ⟨hstands, honly⟩
    exact ⟨fun name v hgiven => hstands (name, v) hgiven,
      fun name v w hgiven hentry => honly (name, v) hgiven (.text name, w) hentry rfl⟩

instance : Decidable (Said given settings) :=
  decidable_of_iff _ said_iff.symm

theorem Said.entry? (h : Said given settings) (hgiven : (name, v) ∈ given) :
    Value.entry? settings name = some v ∨
      Value.entry? settings name = none ∧ isUnset v = true := by
  cases hentry : Value.entry? settings name with
  | some w => exact .inl (congrArg some (h.only name v w hgiven (Value.mem_of_entry? hentry)))
  | none =>
    refine .inr ⟨rfl, ?_⟩
    by_contra hset
    obtain ⟨w, hw⟩ := Value.exists_entry?_of_mem (h.stands name v hgiven (by simpa using hset))
    cases hentry.symm.trans hw

theorem mem_setEntry {entry : Value × Value}
    (h : entry ∈ Value.setEntry settings (.text name) v) :
    entry = (.text name, v) ∨ entry ∈ settings := by
  induction settings with
  | nil => exact .inl (List.mem_singleton.mp h)
  | cons first rest ih =>
    obtain ⟨key, old⟩ := first
    rw [Value.setEntry] at h
    split at h
    · next hsame =>
      rw [Value.sameKey_text_iff.mp hsame] at h
      exact (List.mem_cons.mp h).imp_right (List.mem_cons_of_mem _)
    · rcases List.mem_cons.mp h with rfl | h
      · exact .inr List.mem_cons_self
      · exact (ih h).imp_right (List.mem_cons_of_mem _)

theorem mem_setEntry_of_ne {entry : Value × Value} (h : entry ∈ settings)
    (hne : entry.1 ≠ .text name) : entry ∈ Value.setEntry settings (.text name) v := by
  induction settings with
  | nil => cases h
  | cons first rest ih =>
    obtain ⟨key, old⟩ := first
    rw [Value.setEntry]
    split
    · next hsame =>
      rcases List.mem_cons.mp h with rfl | h
      · exact absurd (Value.sameKey_text_iff.mp hsame) hne
      · exact List.mem_cons_of_mem _ h
    · rcases List.mem_cons.mp h with rfl | h
      · exact List.mem_cons_self
      · exact List.mem_cons_of_mem _ (ih h)

theorem Said.setEntry (h : Said given settings) (hname : ∀ v, (name, v) ∉ given) (v : Value) :
    Said given (Value.setEntry settings (.text name) v) := by
  have hne : ∀ other w, (other, w) ∈ given → other ≠ name := by
    rintro _ w hgiven rfl
    exact hname w hgiven
  constructor
  · intro other w hgiven hset
    refine mem_setEntry_of_ne (h.stands other w hgiven hset) fun heq => ?_
    exact hne other w hgiven (Value.text.inj heq)
  · intro other w u hgiven hentry
    rcases mem_setEntry hentry with heq | hentry
    · exact absurd (Value.text.inj (Prod.mk.inj heq).1) (hne other w hgiven)
    · exact h.only other w u hgiven hentry

theorem mem_overlay {config : List (Value × Value)} {command : String}
    (h : (.text name, v) ∈ overlay config command given) :
    (name, v) ∈ given ∨ (.text name, v) ∈ sectionOf config command := by
  revert h
  refine overlay_induction (motive := fun entries => (.text name, v) ∈ entries →
    (name, v) ∈ given ∨ (.text name, v) ∈ sectionOf config command) .inr ?_
  intro entries other w hgiven ih h
  rcases mem_setEntry h with heq | hentry
  · cases heq
    exact .inl hgiven
  · exact ih hentry

/-- What is laid over a section that says nothing of it is said. -/
theorem said_overlay {config : List (Value × Value)} {command : String}
    (hnodup : (given.map Prod.fst).Nodup)
    (hsection : ∀ name v w, (name, v) ∈ given → (.text name, w) ∉ sectionOf config command) :
    Said given (overlay config command given) := by
  have honly : ∀ name v w, (name, v) ∈ given →
      (.text name, w) ∈ overlay config command given → w = v := by
    intro name v w hgiven hentry
    rcases mem_overlay hentry with hmem | hmem
    · exact congrArg Prod.snd (List.inj_on_of_nodup_map hnodup hmem hgiven rfl)
    · exact absurd hmem (hsection name v w hgiven)
  refine ⟨fun name v hgiven hset => Value.mem_of_entry? ?_, honly⟩
  cases hentry : Value.entry? (overlay config command given) name with
  | some w => exact congrArg some (honly name v w hgiven (Value.mem_of_entry? hentry))
  | none =>
    rw [entry?_overlay, Option.or_eq_none_iff, Option.map_eq_none_iff, List.find?_eq_none] at hentry
    refine absurd (beq_self_eq_true name) (hentry.1 (name, v) ?_)
    exact List.mem_reverse.mpr (List.mem_filter.mpr ⟨hgiven, by simp [hset]⟩)

theorem isNothing_of_isUnset (h : isUnset v = true) : v.isNothing = true := by
  cases v <;> first | exact h | cases h

end Settings

namespace CommandLine

open Settings

variable {r : CountRequest} {settings : List (Value × Value)} {name : String} {v : Value}

theorem isOn_of_said (h : Said r.settings settings) (hgiven : (name, v) ∈ r.settings) :
    isOn settings name = !v.isNothing := by
  rcases h.entry? hgiven with hentry | ⟨hentry, hunset⟩
  · rw [isOn, hentry]
    rfl
  · rw [isOn, hentry, isNothing_of_isUnset hunset]
    rfl

theorem word_of_said (h : Said r.settings settings) {text : Option String}
    (hgiven : (name, textOrNull text) ∈ r.settings) (default : String) :
    word settings name default =
      .ok (if (textOrNull text).isNothing then default else (textOrNull text).shown) := by
  have hwritable : (textOrNull text).isWritable = true := by cases text <;> rfl
  rcases h.entry? hgiven with hentry | ⟨hentry, hunset⟩
  · rw [word, hentry]
    dsimp only
    rw [hwritable]
    cases (textOrNull text).isNothing <;> rfl
  · rw [word, hentry, if_pos (isNothing_of_isUnset hunset)]

end CommandLine

/-! ## The options that are given -/

namespace Options

def tidy (o : Options) : Options :=
  { o with
    nameMatch := o.nameMatch.filter (!·.isEmpty)
    nameNotMatch := o.nameNotMatch.filter (!·.isEmpty)
    dirMatch := o.dirMatch.filter (!·.isEmpty)
    dirNotMatch := o.dirNotMatch.filter (!·.isEmpty) }

/-- The options that can be given on the command line, too, are those of the fields. -/
structure ReadsGiven (fields : Fields) (o : Options) : Prop where
  excludeExt : itemsField fields "exclude_ext" extensionsOf = .ok (.ok o.excludeExt)
  includeLang : itemsField fields "include_lang" languagesOf = .ok (.ok o.includeLang)
  nameMatch : optional fields "match" none (orNull asText) = .ok o.nameMatch
  nameNotMatch : optional fields "not_match" none (orNull asText) = .ok o.nameNotMatch
  dirMatch : optional fields "match_dir" none (orNull asText) = .ok o.dirMatch
  dirNotMatch : optional fields "not_match_dir" none (orNull asText) = .ok o.dirNotMatch
  skipDuplicates : optional fields "skip_duplicated" false asTruth = .ok o.skipDuplicates
  includeHidden : optional fields "include_hidden" false asTruth = .ok o.includeHidden
  countUnknown : optional fields "unknown_language" false asTruth = .ok o.countUnknown
  countTokens : optional fields "count_tokens" false asTruth = .ok o.countTokens
  jobs : optional fields "jobs" none (orNull asInteger) = .ok o.jobs

theorem ofFields_of_readsGiven {fields : Fields} {o : Options} (h : ReadsGiven fields o) :
    ofFields fields = (named "AnalysisOptions" (Checked.also
      ((optional fields "respect_gitignore" true asTruth).map fun respects limit =>
        { o with respectGitignore := respects, lineLimit := limit })
      (optional fields "max_line_length" defaultLineLimit asLineLimit))).mapError .invalid := by
  rw [ofFields, h.excludeExt, h.includeLang]
  simp only [bind, Except.bind, h.nameMatch, h.nameNotMatch, h.dirMatch, h.dirNotMatch,
    h.skipDuplicates, h.includeHidden, h.countUnknown, h.countTokens, h.jobs]
  cases optional fields "respect_gitignore" true asTruth <;> rfl

/-! ### The fields of the settings -/

open CommandLine Settings

variable {given : List (String × Value)} {settings : List (Value × Value)} {fields split : Fields}
  {name : String} {v : Value}

theorem optional_congr {α : Type} {fields' : Fields}
    (h : Table.find? fields name = Table.find? fields' name)
    (default : α) (check : Value → Checked α) :
    optional fields name default check = optional fields' name default check := by
  have hchecked := congrArg (Option.map check) h
  rw [Table.find?, Table.find?] at hchecked
  rw [Option.map_map, Option.map_map] at hchecked
  exact congrArg (fun found => Checked.under (.field name) (Option.getD found (.ok default)))
    hchecked

theorem optional_of_said {α : Type} (h : Said given settings) (hgiven : (name, v) ∈ given)
    (hfield : Table.find? fields name = Value.entry? settings name)
    {default a : α} {check : Value → Checked α} (hcheck : check v = .ok a) :
    optional fields name default check = .ok a ∨
      isUnset v = true ∧ optional fields name default check = .ok default := by
  rcases h.entry? hgiven with hentry | ⟨hentry, hunset⟩
  · exact .inl ((optional_eq_ok (hfield.trans hentry)).mpr hcheck)
  · rw [hentry, Table.find?, Option.map_eq_none_iff] at hfield
    exact .inr ⟨hunset, by rw [Schema.optional, hfield]; rfl⟩

theorem flag_of_said (h : Said given settings) {b : Bool} (hgiven : (name, .bool b) ∈ given)
    (hfield : Table.find? fields name = Value.entry? settings name) :
    optional fields name false asTruth = .ok b := by
  have hcheck : asTruth (.bool b) = .ok b := rfl
  rcases optional_of_said h hgiven hfield hcheck with hread | ⟨hunset, hread⟩
  · exact hread
  · have hoff : b = false := by simpa [isUnset, Value.isNothing] using hunset
    rwa [hoff]

theorem pattern_of_said (h : Said given settings) {text : Option String}
    (hgiven : (name, textOrNull text) ∈ given)
    (hfield : Table.find? fields name = Value.entry? settings name) :
    ∃ pattern, optional fields name none (orNull asText) = .ok pattern ∧
      pattern.filter (!·.isEmpty) = text.filter (!·.isEmpty) := by
  have hcheck : orNull asText (textOrNull text) = .ok text := by cases text <;> rfl
  rcases optional_of_said h hgiven hfield hcheck with hread | ⟨hunset, hread⟩
  · exact ⟨text, hread, rfl⟩
  · refine ⟨none, hread, ?_⟩
    cases text with
    | none => rfl
    | some s =>
      have hempty : s.isEmpty = true := hunset
      simp [Option.filter, hempty]

def itemsGiven (text : Option String) : List String :=
  trimmedItems (trimmedItems ((text.map (Text.split ',')).getD []))

theorem itemsOf_textOrNull (text : Option String) :
    itemsOf (textOrNull text) = .ok ((text.map (Text.split ',')).getD []) := by
  cases text <;> rfl

theorem itemsGiven_of_isUnset {text : Option String} (h : isUnset (textOrNull text) = true) :
    itemsGiven text = [] := by
  cases text with
  | none => rfl
  | some s =>
    have hempty : s = "" := String.isEmpty_iff.mp h
    subst hempty
    decide

theorem items_of_said (h : Said given settings) (hkeys : KnowsKeys settings)
    (hsplit : splitFields (settings.filterMap fieldOf) = .ok split)
    (hname : name = "exclude_ext" ∨ name = "include_lang") {text : Option String}
    (hgiven : (name, textOrNull text) ∈ given) (finish : List String → List String)
    (hfinish : finish [] = []) :
    itemsField split name (fun v => (itemsOf v).map fun items => finish (trimmedItems items)) =
      .ok (.ok (finish (itemsGiven text))) := by
  have hfield := find?_of_knowsKeys hkeys hname
  rcases h.entry? hgiven with hentry | ⟨hentry, hunset⟩
  · obtain ⟨items, hitems, hlist⟩ := find?_splitFields_list hsplit hname (hfield.trans hentry)
    cases (itemsOf_textOrNull text).symm.trans hitems
    obtain ⟨⟨given, v⟩, hfound, rfl⟩ := Option.map_eq_some_iff.mp hlist
    rw [itemsField, hfound]
    dsimp only
    rw [itemsOf_texts]
    rfl
  · have hnone := find?_splitFields_eq_none hsplit (hfield.trans hentry)
    rw [Table.find?, Option.map_eq_none_iff] at hnone
    rw [itemsField, hnone, itemsGiven_of_isUnset hunset, hfinish]

theorem find?_split (hkeys : KnowsKeys settings)
    (hsplit : splitFields (settings.filterMap fieldOf) = .ok split)
    (hname : name ∉ presentationNames) (hexclude : name ≠ "exclude_ext")
    (hinclude : name ≠ "include_lang") :
    Table.find? split name = Value.entry? settings name := by
  rw [find?_splitFields hsplit hexclude hinclude,
    find?_knownFields (knownFields_of_knowsKeys hkeys) hname]

end Options

namespace CommandLine

open Options Settings

def CountRequest.options (r : CountRequest) : Options where
  excludeExt := ((itemsGiven r.excludeExt).map dropDots).eraseDups
  includeLang := (itemsGiven r.includeLang).eraseDups
  nameMatch := r.nameMatch.filter (!·.isEmpty)
  nameNotMatch := r.nameNotMatch.filter (!·.isEmpty)
  dirMatch := r.dirMatch.filter (!·.isEmpty)
  dirNotMatch := r.dirNotMatch.filter (!·.isEmpty)
  skipDuplicates := r.skipDuplicates
  includeHidden := r.includeHidden
  countUnknown := r.countUnknown
  countTokens := r.countTokens
  jobs := r.jobs

def ownNames : List String :=
  ({ paths := [] } : CountRequest).settings.map Prod.fst ++ ["output"]

variable {r : CountRequest} {settings : List (Value × Value)}

theorem jobs_of_said {fields : Schema.Fields} (h : Said r.settings settings)
    (hjobs : ∀ n, r.jobs = some n → 0 < n)
    (hfield : Table.find? fields "jobs" = Value.entry? settings "jobs") :
    Schema.optional fields "jobs" none (Schema.orNull Schema.asInteger) = .ok r.jobs := by
  cases hgiven : r.jobs with
  | none =>
    have hmem : ("jobs", .null) ∈ r.settings := by simp [CountRequest.settings, hgiven]
    have hcheck : Schema.orNull Schema.asInteger .null = .ok none := rfl
    rcases optional_of_said h hmem hfield hcheck with hread | ⟨-, hread⟩ <;> exact hread
  | some n =>
    have hmem : ("jobs", .int n) ∈ r.settings := by simp [CountRequest.settings, hgiven]
    have hpos := hjobs n hgiven
    have hcheck : Schema.orNull Schema.asInteger (.int n) = .ok (some n) := rfl
    rcases optional_of_said h hmem hfield hcheck with hread | ⟨hunset, -⟩
    · exact hread
    · have hzero : n = 0 := by simpa [isUnset, Value.isNothing] using hunset
      omega

theorem mem_ownNames {name : String} {v : Value} (h : (name, v) ∈ r.settings) :
    name ∈ ownNames := by
  have hname : name ∈ r.settings.map Prod.fst := List.mem_map.mpr ⟨(name, v), h, rfl⟩
  exact List.mem_append_left _ hname

theorem mem_settings_excludeExt (r : CountRequest) :
    ("exclude_ext", textOrNull r.excludeExt) ∈ r.settings := by
  simp [CountRequest.settings]

theorem mem_settings_includeLang (r : CountRequest) :
    ("include_lang", textOrNull r.includeLang) ∈ r.settings := by
  simp [CountRequest.settings]

theorem exists_split (h : Said r.settings settings) (hkeys : KnowsKeys settings) :
    ∃ split, splitFields (settings.filterMap fieldOf) = .ok split := by
  have hitems {name : String} {text : Option String} (hname : name = "exclude_ext" ∨
      name = "include_lang") (hgiven : (name, textOrNull text) ∈ r.settings) {v : Value}
      (hv : Table.find? (settings.filterMap fieldOf) name = some v) {fault : ItemsFault} :
      itemsOf v ≠ .error fault := by
    rw [find?_of_knowsKeys hkeys hname] at hv
    rw [h.only name _ v hgiven (Value.mem_of_entry? hv), itemsOf_textOrNull]
    nofun
  cases hsplit : splitFields (settings.filterMap fieldOf) with
  | ok split => exact ⟨split, rfl⟩
  | error e =>
    obtain ⟨v, fault, hv, hfault, -⟩ | ⟨-, v, fault, hv, hfault, -⟩ :=
      splitFields_eq_error_iff.mp hsplit
    · exact absurd hfault (hitems (.inl rfl) (mem_settings_excludeExt r) hv)
    · exact absurd hfault (hitems (.inr rfl) (mem_settings_includeLang r) hv)

theorem exists_readsGiven {split : Schema.Fields} (h : Said r.settings settings)
    (hjobs : ∀ n, r.jobs = some n → 0 < n) (hkeys : KnowsKeys settings)
    (hsplit : splitFields (settings.filterMap fieldOf) = .ok split) :
    ∃ o, ReadsGiven split o ∧ o.tidy = r.options := by
  have hflag {name : String} {b : Bool} (hgiven : (name, .bool b) ∈ r.settings)
      (hname : name ∉ presentationNames ∧ name ≠ "exclude_ext" ∧ name ≠ "include_lang") :
      Schema.optional split name false Schema.asTruth = .ok b :=
    flag_of_said h hgiven (find?_split hkeys hsplit hname.1 hname.2.1 hname.2.2)
  have hpattern (name : String) (text : Option String)
      (hgiven : (name, textOrNull text) ∈ r.settings)
      (hname : name ∉ presentationNames ∧ name ≠ "exclude_ext" ∧ name ≠ "include_lang") :
      ∃ pattern, Schema.optional split name none (Schema.orNull Schema.asText) = .ok pattern ∧
        pattern.filter (!·.isEmpty) = text.filter (!·.isEmpty) :=
    pattern_of_said h hgiven (find?_split hkeys hsplit hname.1 hname.2.1 hname.2.2)
  obtain ⟨nameMatch, hname, hnamed⟩ :=
    hpattern "match" r.nameMatch (by simp [CountRequest.settings]) (by decide)
  obtain ⟨nameNotMatch, hnotName, hnotNamed⟩ :=
    hpattern "not_match" r.nameNotMatch (by simp [CountRequest.settings]) (by decide)
  obtain ⟨dirMatch, hdir, hdirs⟩ :=
    hpattern "match_dir" r.dirMatch (by simp [CountRequest.settings]) (by decide)
  obtain ⟨dirNotMatch, hnotDir, hnotDirs⟩ :=
    hpattern "not_match_dir" r.dirNotMatch (by simp [CountRequest.settings]) (by decide)
  refine ⟨{ r.options with nameMatch, nameNotMatch, dirMatch, dirNotMatch }, ?_, ?_⟩
  · exact
      { excludeExt := items_of_said h hkeys hsplit (.inl rfl) (mem_settings_excludeExt r)
          (fun items => (items.map dropDots).eraseDups) rfl
        includeLang := items_of_said h hkeys hsplit (.inr rfl) (mem_settings_includeLang r)
          List.eraseDups rfl
        nameMatch := hname
        nameNotMatch := hnotName
        dirMatch := hdir
        dirNotMatch := hnotDir
        skipDuplicates := hflag (by simp [CountRequest.settings, CountRequest.options]) (by decide)
        includeHidden := hflag (by simp [CountRequest.settings, CountRequest.options]) (by decide)
        countUnknown := hflag (by simp [CountRequest.settings, CountRequest.options]) (by decide)
        countTokens := hflag (by simp [CountRequest.settings, CountRequest.options]) (by decide)
        jobs := jobs_of_said h hjobs
          (find?_split hkeys hsplit (by decide) (by decide) (by decide)) }
  · simp only [tidy, hnamed, hnotNamed, hdirs, hnotDirs, CountRequest.options]

/-! ## The rest of the settings -/

def isOwn : Value → Bool
  | .text name => ownNames.contains name
  | _ => false

/-- The settings that the command line cannot make. -/
def unsaid (settings : List (Value × Value)) : List (Value × Value) :=
  settings.filter fun entry => !isOwn entry.1

theorem oddEntries_unsaid (settings : List (Value × Value)) :
    oddEntries (unsaid settings) = oddEntries settings := by
  rw [oddEntries, unsaid, List.filter_filter, oddEntries]
  congr 1
  funext entry
  cases entry.1 <;> simp [isOwn]

theorem unknownNames_unsaid (settings : List (Value × Value)) :
    unknownNames (unsaid settings) = unknownNames settings := by
  have hknown : ∀ name ∈ ownNames, name ∈ presentationNames ∨ name ∈ names := by decide
  rw [unknownNames, unknownNames, unsaid, List.map_filterMap, List.map_filterMap,
    List.filter_filterMap, List.filter_filterMap, List.filterMap_filter]
  congr 1
  funext entry
  obtain ⟨key, v⟩ := entry
  cases key with
  | text name =>
    split
    · rfl
    · next hown =>
      have hmem : name ∈ ownNames := by simpa [isOwn] using hown
      rcases hknown name hmem with hname | hname
      · simp [fieldOf, hname]
      · by_cases hpresents : name ∈ presentationNames <;>
          simp [fieldOf, hpresents, Option.filter, hname]
  | _ => rfl

theorem entry?_unsaid {name : String} (hname : name ∉ ownNames) (settings : List (Value × Value)) :
    Value.entry? (unsaid settings) name = Value.entry? settings name := by
  rw [Value.entry?, unsaid, List.find?_filter, Value.entry?]
  congr 2
  funext entry
  cases hsame : Value.sameKey entry.1 (.text name) with
  | false => simp
  | true =>
    rw [Value.sameKey_text_iff.mp hsame]
    simp [isOwn, hname]

theorem isOwn_text {name : String} : isOwn (.text name) = true ↔ name ∈ ownNames := by
  simp [isOwn]

theorem unsaid_unsaid (settings : List (Value × Value)) :
    unsaid (unsaid settings) = unsaid settings := by
  simp [unsaid, List.filter_filter]

theorem unsaid_setEntry_own {name : String} (hown : name ∈ ownNames)
    (settings : List (Value × Value)) (v : Value) :
    unsaid (Value.setEntry settings (.text name) v) = unsaid settings := by
  have hdropped : ∀ (key v : Value) rest, isOwn key = true →
      unsaid ((key, v) :: rest) = unsaid rest := by
    intro key v rest hkey
    simp [unsaid, hkey]
  induction settings with
  | nil => exact hdropped _ _ _ (isOwn_text.mpr hown)
  | cons entry rest ih =>
    obtain ⟨key, old⟩ := entry
    rw [Value.setEntry]
    split
    · next hsame =>
      have hkey : isOwn key = true := by
        rw [Value.sameKey_text_iff.mp hsame]
        exact isOwn_text.mpr hown
      rw [hdropped _ _ _ hkey, hdropped _ _ _ hkey]
    · rw [unsaid, List.filter_cons, ← unsaid, ih, unsaid, unsaid, List.filter_cons]

theorem unsaid_setEntry {name : String} (hown : name ∉ ownNames)
    (settings : List (Value × Value)) (v : Value) :
    unsaid (Value.setEntry settings (.text name) v) =
      Value.setEntry (unsaid settings) (.text name) v := by
  have hkept : isOwn (.text name) = false := by
    rw [← Bool.not_eq_true, isOwn_text]
    exact hown
  induction settings with
  | nil => simp [unsaid, Value.setEntry, hkept]
  | cons entry rest ih =>
    obtain ⟨key, old⟩ := entry
    rw [unsaid] at ih
    cases hsame : Value.sameKey key (.text name) with
    | true => simp [unsaid, Value.setEntry, Value.sameKey_text_iff.mp hsame, hkept,
        Value.sameKey_text_iff]
    | false => cases hkey : isOwn key <;> simp [unsaid, Value.setEntry, hsame, hkey, ih]

theorem unsaid_overlay (config : List (Value × Value)) (command : String) (r : CountRequest) :
    unsaid (overlay config command r.settings) = unsaid (sectionOf config command) := by
  refine overlay_induction (motive := fun entries =>
    unsaid entries = unsaid (sectionOf config command)) rfl ?_
  intro entries name v hgiven ih
  rw [unsaid_setEntry_own (mem_ownNames hgiven), ih]

theorem said_unsaid (settings : List (Value × Value)) :
    Said ({ paths := [] } : CountRequest).settings (unsaid settings) := by
  constructor
  · intro name v hgiven hset
    have hunset : ∀ entry ∈ ({ paths := [] } : CountRequest).settings,
        isUnset entry.2 = true := by decide
    cases hset.symm.trans (hunset _ hgiven)
  · intro name v w hgiven hentry
    have hown := (List.mem_filter.mp hentry).2
    rw [isOwn_text.mpr (mem_ownNames hgiven)] at hown
    cases hown

theorem exists_knownFields_eq_error (h : ¬KnowsKeys settings) :
    ∃ e, knownFields settings = .error e ∧ knownFields (unsaid settings) = .error e := by
  rw [knowsKeys_iff, and_comm] at h
  rw [knownFields_eq, knownFields_eq, oddEntries_unsaid, unknownNames_unsaid]
  cases hunknown : unknownNames settings with
  | nil =>
    cases hodd : oddEntries settings with
    | nil => exact absurd ⟨hunknown, hodd⟩ h
    | cons _ _ => exact ⟨_, rfl, rfl⟩
  | cons _ _ => cases oddEntries settings <;> exact ⟨_, rfl, rfl⟩

/-- Of settings that say what the command line says, the options are those that the command line
asks for; the rest of the settings decides about the others, and whether there are options. -/
theorem ofSection_of_said (h : Said r.settings settings)
    (hjobs : ∀ n, r.jobs = some n → 0 < n) :
    (ofSection settings).map tidy = (ofSection (unsaid settings)).map fun o =>
      { r.options with respectGitignore := o.respectGitignore, lineLimit := o.lineLimit } := by
  have hiff : KnowsKeys (unsaid settings) ↔ KnowsKeys settings := by
    rw [knowsKeys_iff, knowsKeys_iff, oddEntries_unsaid, unknownNames_unsaid]
  by_cases hkeys : KnowsKeys settings
  · have hkeys₀ := hiff.mpr hkeys
    obtain ⟨split, hsplit⟩ := exists_split h hkeys
    obtain ⟨o, hreads, htidy⟩ := exists_readsGiven h hjobs hkeys hsplit
    obtain ⟨split₀, hsplit₀⟩ := exists_split (said_unsaid settings) hkeys₀
    obtain ⟨o₀, hreads₀, -⟩ := exists_readsGiven (said_unsaid settings) nofun hkeys₀ hsplit₀
    have hleft {name : String} (hname : name ∉ presentationNames ∧ name ≠ "exclude_ext" ∧
        name ≠ "include_lang" ∧ name ∉ ownNames) :
        Table.find? split name = Table.find? split₀ name := by
      obtain ⟨hpresents, hexclude, hinclude, hown⟩ := hname
      rw [find?_split hkeys hsplit hpresents hexclude hinclude,
        find?_split hkeys₀ hsplit₀ hpresents hexclude hinclude, entry?_unsaid hown]
    rw [ofSection_of_knowsKeys hkeys, ofSection_of_knowsKeys hkeys₀, hsplit, hsplit₀]
    show (ofFields split).map tidy = (ofFields split₀).map _
    rw [ofFields_of_readsGiven hreads, ofFields_of_readsGiven hreads₀,
      optional_congr (hleft (by decide)), optional_congr (hleft (by decide))]
    cases Schema.optional split₀ "respect_gitignore" true Schema.asTruth <;>
      cases Schema.optional split₀ "max_line_length" defaultLineLimit asLineLimit
    case ok.ok respects limit =>
      have htidied : { o with respectGitignore := respects, lineLimit := limit }.tidy =
          { r.options with respectGitignore := respects, lineLimit := limit } := by
        rw [← htidy]
        rfl
      exact congrArg Except.ok htidied
    all_goals rfl
  · obtain ⟨e, he, he₀⟩ := exists_knownFields_eq_error hkeys
    rw [ofSection, ofSection, he, he₀]
    rfl

end CommandLine

end LineCensus
