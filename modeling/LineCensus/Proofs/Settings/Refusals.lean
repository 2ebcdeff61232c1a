import LineCensus.Proofs.Settings.Fields

/-!
# Sections that make no options

A section of a configuration is refused by its keys, by the two lists, or by the checks of its
fields.  Most refusals can be told to the user.  The main statement says which cannot: those of a
key that is no text, and those of a number, a truth value or a date in place of a list.
-/

namespace LineCensus.Options

open Schema

/-- A value that has no items, although it is something. -/
def isItemless : Value → Bool
  | .bool _ | .int _ | .float _ | .day _ | .moment _ => true
  | _ => false

def KnowsKeys (entries : List (Value × Value)) : Prop :=
  ∀ entry ∈ entries, ∃ name, entry.1 = .text name ∧ (name ∈ presentationNames ∨ name ∈ names)

/-- The sections for whose refusal there is no wording. -/
inductive Unreadable (entries : List (Value × Value)) : Prop where
  /-- A key is no text, so that the unknown options cannot be listed. -/
  | key (entry : Value × Value) (hentry : entry ∈ entries) (hkey : ∀ name, entry.1 ≠ .text name)
  /-- All keys are known, but the extensions to leave out have no items. -/
  | extensions (hkeys : KnowsKeys entries) {v : Value}
    (hentry : Value.entry? entries "exclude_ext" = some v) (hv : isItemless v = true)
  /-- The languages have no items.  The extensions are looked at before them, and what is wrong
  with those can be told if they have items. -/
  | languages (hkeys : KnowsKeys entries) {v : Value}
    (hentry : Value.entry? entries "include_lang" = some v) (hv : isItemless v = true)
    (hbefore : ∀ w, Value.entry? entries "exclude_ext" = some w → itemsOf w ≠ .error .unwritable)

variable {entries : List (Value × Value)} {fields split : Fields} {e : Refusal}

/-! ## The keys -/

theorem mem_filterMap_fieldOf {name : String} {v : Value} :
    (name, v) ∈ entries.filterMap fieldOf ↔
      (.text name, v) ∈ entries ∧ name ∉ presentationNames := by
  rw [List.mem_filterMap]
  constructor
  · rintro ⟨⟨key, v'⟩, hentry, hfield⟩
    obtain ⟨given, rfl, hgiven, ⟨⟩⟩ := fieldOf_eq_some.mp hfield
    exact ⟨hentry, hgiven⟩
  · rintro ⟨hentry, hname⟩
    exact ⟨_, hentry, fieldOf_eq_some.mpr ⟨name, rfl, hname, rfl⟩⟩

def oddEntries (entries : List (Value × Value)) : List (Value × Value) :=
  entries.filter fun entry =>
    match entry.1 with
    | .text _ => false
    | _ => true

def unknownNames (entries : List (Value × Value)) : List String :=
  ((entries.filterMap fieldOf).map Prod.fst).filter (!names.contains ·)

theorem knownFields_eq (entries : List (Value × Value)) :
    knownFields entries =
      match unknownNames entries, oddEntries entries with
      | [], [] => .ok (entries.filterMap fieldOf)
      | unknown, [] => .error (.unknown (unknown.mergeSort (· ≤ ·)))
      | _, _ => .error .unknownKey := rfl

theorem oddEntries_eq_nil_iff :
    oddEntries entries = [] ↔ ∀ entry ∈ entries, ∃ name, entry.1 = .text name := by
  rw [oddEntries, List.filter_eq_nil_iff]
  refine forall₂_congr fun entry _ => ?_
  cases entry.1 <;> simp

theorem unknownNames_eq_nil_iff : unknownNames entries = [] ↔
    ∀ name v, (.text name, v) ∈ entries → name ∈ presentationNames ∨ name ∈ names := by
  simp only [unknownNames, List.filter_eq_nil_iff, List.forall_mem_map, Prod.forall,
    mem_filterMap_fieldOf, Bool.not_eq_true', Bool.not_eq_false, List.contains_iff_mem, and_imp,
    or_iff_not_imp_left]

theorem knowsKeys_iff :
    KnowsKeys entries ↔ oddEntries entries = [] ∧ unknownNames entries = [] := by
  rw [oddEntries_eq_nil_iff, unknownNames_eq_nil_iff]
  constructor
  · intro h
    refine ⟨fun entry hentry => ?_, fun name v hentry => ?_⟩
    · obtain ⟨name, hkey, -⟩ := h entry hentry
      exact ⟨name, hkey⟩
    · obtain ⟨_, ⟨⟩, hknown⟩ := h _ hentry
      exact hknown
  · rintro ⟨htext, hknown⟩ ⟨key, v⟩ hentry
    obtain ⟨name, rfl⟩ := htext _ hentry
    exact ⟨name, rfl, hknown name v hentry⟩

theorem knownFields_of_knowsKeys (h : KnowsKeys entries) :
    knownFields entries = .ok (entries.filterMap fieldOf) := by
  obtain ⟨hodd, hunknown⟩ := knowsKeys_iff.mp h
  rw [knownFields_eq, hodd, hunknown]

theorem knownFields_of_odd {entry : Value × Value} (hentry : entry ∈ entries)
    (hkey : ∀ name, entry.1 ≠ .text name) : knownFields entries = .error .unknownKey := by
  rw [knownFields_eq]
  cases hodd : oddEntries entries with
  | nil =>
    obtain ⟨name, hname⟩ := oddEntries_eq_nil_iff.mp hodd entry hentry
    exact absurd hname (hkey name)
  | cons _ _ => cases unknownNames entries <;> rfl

theorem knownFields_cases (entries : List (Value × Value)) :
    (∃ entry ∈ entries, ∀ name, entry.1 ≠ .text name) ∨
    (∃ unknown, knownFields entries = .error (.unknown unknown)) ∨ KnowsKeys entries := by
  by_cases htext : ∀ entry ∈ entries, ∃ name, entry.1 = .text name
  · have hodd := oddEntries_eq_nil_iff.mpr htext
    cases hunknown : unknownNames entries with
    | nil => exact .inr (.inr (knowsKeys_iff.mpr ⟨hodd, hunknown⟩))
    | cons name rest =>
      refine .inr (.inl ⟨(name :: rest).mergeSort (· ≤ ·), ?_⟩)
      rw [knownFields_eq, hodd, hunknown]
  · push Not at htext
    exact .inl htext

/-! ## The two lists -/

theorem itemsOf_eq_notItems_iff {v : Value} :
    itemsOf v = .error .notItems ↔ isItemless v = true := by
  have hwords (items : List Value) : inWords items ≠ .error .notItems := by
    rw [inWords]
    split <;> simp
  cases v <;> simp [itemsOf, isItemless, hwords]

theorem splitField_eq_error_iff {name : String} :
    splitField name fields = .error e ↔ ∃ v fault, Table.find? fields name = some v ∧
      itemsOf v = .error fault ∧ .items fault = e := by
  rw [splitField]
  cases hfield : Table.find? fields name with
  | none => simp
  | some v =>
    rw [Fallible.map_eq_error, Fallible.mapError_eq_error]
    constructor
    · rintro ⟨fault, hfault, he⟩
      exact ⟨v, fault, rfl, hfault, he⟩
    · rintro ⟨_, fault, ⟨⟩, hfault, he⟩
      exact ⟨fault, hfault, he⟩

/-- The extensions are split first. -/
theorem splitFields_eq_error_iff :
    splitFields fields = .error e ↔
      (∃ v fault, Table.find? fields "exclude_ext" = some v ∧ itemsOf v = .error fault ∧
        .items fault = e) ∨
      (∀ v, Table.find? fields "exclude_ext" = some v → ∃ items, itemsOf v = .ok items) ∧
        ∃ v fault, Table.find? fields "include_lang" = some v ∧ itemsOf v = .error fault ∧
          .items fault = e := by
  rw [splitFields, Fallible.bind_eq_error, splitField_eq_error_iff]
  refine or_congr Iff.rfl ?_
  constructor
  · rintro ⟨between, hexclude, hinclude⟩
    refine ⟨fun v hv => ?_, ?_⟩
    · obtain ⟨items, hitems, -⟩ := find?_splitField_self hexclude hv
      exact ⟨items, hitems⟩
    · obtain ⟨v, fault, hv, hfault, he⟩ := splitField_eq_error_iff.mp hinclude
      rw [find?_splitField_of_ne hexclude (by decide)] at hv
      exact ⟨v, fault, hv, hfault, he⟩
  · rintro ⟨hitems, v, fault, hv, hfault, he⟩
    cases hexclude : splitField "exclude_ext" fields with
    | error cause =>
      obtain ⟨w, fault', hw, hfault', -⟩ := splitField_eq_error_iff.mp hexclude
      obtain ⟨items, hok⟩ := hitems w hw
      cases hok.symm.trans hfault'
    | ok between =>
      refine ⟨between, rfl, splitField_eq_error_iff.mpr ⟨v, fault, ?_, hfault, he⟩⟩
      rw [find?_splitField_of_ne hexclude (by decide)]
      exact hv

theorem items_of_splitField {name : String} (h : splitField name fields = .ok split) {v : Value}
    (hfield : Table.find? split name = some v) : ∃ items, itemsOf v = .ok items := by
  cases hgiven : Table.find? fields name with
  | none =>
    rw [splitField, hgiven] at h
    cases h
    cases hgiven.symm.trans hfield
  | some given =>
    obtain ⟨items, -, hlist⟩ := find?_splitField_self h hgiven
    cases hfield.symm.trans hlist
    exact ⟨trimmedItems items, itemsOf_texts _⟩

theorem items_of_splitFields (h : splitFields fields = .ok split) {name : String} {v : Value}
    (hname : name = "exclude_ext" ∨ name = "include_lang")
    (hfield : Table.find? split name = some v) : ∃ items, itemsOf v = .ok items := by
  obtain ⟨between, hexclude, hinclude⟩ := Fallible.bind_eq_ok.mp h
  obtain rfl | rfl := hname
  · rw [find?_splitField_of_ne hinclude (by decide)] at hfield
    exact items_of_splitField hexclude hfield
  · exact items_of_splitField hinclude hfield

theorem itemsField_ne_error {name : String} {items : Value → Except ItemsFault (List String)}
    (hitems : ∀ v fault, items v = .error fault → itemsOf v = .error fault)
    (hlist : ∀ v, Table.find? fields name = some v → ∃ found, itemsOf v = .ok found) :
    itemsField fields name items ≠ .error e := by
  intro h
  rw [itemsField] at h
  split at h
  · cases h
  · next given v hfield =>
    obtain ⟨found, hfound⟩ := hlist v (by rw [Table.find?, hfield]; rfl)
    split at h
    · cases h
    · next hfault => cases hfound.symm.trans (hitems _ _ hfault)
    · cases h

theorem message_of_ofFields
    (hlists : ∀ name v, name = "exclude_ext" ∨ name = "include_lang" →
      Table.find? fields name = some v → ∃ items, itemsOf v = .ok items)
    (h : ofFields fields = .error e) : e.message.isSome = true := by
  have hitems {f : List String → List String} (v : Value) (fault : ItemsFault)
      (h : (itemsOf v).map f = .error fault) : itemsOf v = .error fault :=
    Fallible.map_eq_error.mp h
  obtain h | ⟨_, -, h⟩ := Fallible.bind_eq_error.mp h
  · exact absurd h (itemsField_ne_error hitems fun v => hlists _ v (.inl rfl))
  obtain h | ⟨_, -, h⟩ := Fallible.bind_eq_error.mp h
  · exact absurd h (itemsField_ne_error hitems fun v => hlists _ v (.inr rfl))
  obtain ⟨invalid, -, rfl⟩ := Fallible.mapError_eq_error.mp h
  rfl

/-! ## The section -/

theorem ofSection_of_knowsKeys (h : KnowsKeys entries) :
    ofSection entries = splitFields (entries.filterMap fieldOf) >>= ofFields := by
  rw [ofSection, knownFields_of_knowsKeys h]
  rfl

theorem find?_of_knowsKeys (h : KnowsKeys entries) {name : String}
    (hname : name = "exclude_ext" ∨ name = "include_lang") :
    Table.find? (entries.filterMap fieldOf) name = Value.entry? entries name := by
  refine find?_knownFields (knownFields_of_knowsKeys h) ?_
  obtain rfl | rfl := hname <;> decide

theorem unreadable_of_ofSection (h : ofSection entries = .error e) (hmessage : e.message = none) :
    Unreadable entries := by
  obtain ⟨odd, hodd, hkey⟩ | ⟨unknown, hknown⟩ | hkeys := knownFields_cases entries
  · exact .key odd hodd hkey
  · rw [ofSection, hknown] at h
    cases h
    cases hmessage
  · have hexclude := find?_of_knowsKeys hkeys (.inl rfl)
    have hinclude := find?_of_knowsKeys hkeys (.inr rfl)
    rw [ofSection_of_knowsKeys hkeys] at h
    obtain hsplit | ⟨split, hsplit, h⟩ := Fallible.bind_eq_error.mp h
    · rw [splitFields_eq_error_iff, hexclude, hinclude] at hsplit
      obtain ⟨v, fault, hv, hfault, rfl⟩ | ⟨hitems, v, fault, hv, hfault, rfl⟩ := hsplit
      · cases fault with
        | unwritable => cases hmessage
        | notItems => exact .extensions hkeys hv (itemsOf_eq_notItems_iff.mp hfault)
      · cases fault with
        | unwritable => cases hmessage
        | notItems =>
          refine .languages hkeys hv (itemsOf_eq_notItems_iff.mp hfault) fun w hw hunwritable => ?_
          obtain ⟨items, hok⟩ := hitems w hw
          cases hok.symm.trans hunwritable
    · have hsome := message_of_ofFields (fun _ _ => items_of_splitFields hsplit) h
      rw [hmessage] at hsome
      cases hsome

theorem message_of_ofSection (hreadable : ¬Unreadable entries) (h : ofSection entries = .error e) :
    ∃ text, e.message = some text :=
  Option.ne_none_iff_exists'.mp fun hnone => hreadable (unreadable_of_ofSection h hnone)

theorem ofSection_of_splitFields_error (hkeys : KnowsKeys entries)
    (h : splitFields (entries.filterMap fieldOf) = .error e) : ofSection entries = .error e := by
  rw [ofSection_of_knowsKeys hkeys, h]
  rfl

theorem ofSection_of_unreadable (h : Unreadable entries) :
    ∃ e, ofSection entries = .error e ∧ e.message = none := by
  cases h with
  | key odd hodd hkey =>
    refine ⟨.unknownKey, ?_, rfl⟩
    rw [ofSection, knownFields_of_odd hodd hkey]
    rfl
  | @extensions hkeys v hentry hv =>
    refine ⟨.items .notItems, ofSection_of_splitFields_error hkeys ?_, rfl⟩
    refine splitFields_eq_error_iff.mpr (.inl ⟨v, .notItems, ?_, itemsOf_eq_notItems_iff.mpr hv, rfl⟩)
    exact (find?_of_knowsKeys hkeys (.inl rfl)).trans hentry
  | @languages hkeys v hentry hv hbefore =>
    refine ⟨.items .notItems, ofSection_of_splitFields_error hkeys ?_, rfl⟩
    have hexclude := find?_of_knowsKeys hkeys (.inl rfl)
    have hinclude := (find?_of_knowsKeys hkeys (.inr rfl)).trans hentry
    rw [splitFields_eq_error_iff, hexclude]
    -- extensions without items end in the same way
    by_cases hok : ∀ w, Value.entry? entries "exclude_ext" = some w → ∃ items, itemsOf w = .ok items
    · exact .inr ⟨hok, v, .notItems, hinclude, itemsOf_eq_notItems_iff.mpr hv, rfl⟩
    · push Not at hok
      obtain ⟨w, hw, hno⟩ := hok
      refine .inl ⟨w, .notItems, hw, ?_, rfl⟩
      cases hitems : itemsOf w with
      | ok items => exact absurd hitems (hno items)
      | error fault =>
        cases fault with
        | notItems => rfl
        | unwritable => exact absurd hitems (hbefore w hw)

end LineCensus.Options
