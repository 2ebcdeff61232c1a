import LineCensus.Proofs.Fallible
import LineCensus.Settings
import Mathlib.Data.List.Nodup

/-!
# Settings laid over one another

The entries of a mapping under text keys, as they are set one after the other.  A later setting
wins, and what counts as nothing sets no entry.
-/

namespace LineCensus

namespace Value

section Keys

variable {α : Type}

def valueAt (entries : List (Value × α)) (key : Value) : Option α :=
  (entries.find? fun e => sameKey e.1 key).map Prod.snd

theorem valueAt_cons (key : Value) (value : α) (rest : List (Value × α)) (other : Value) :
    valueAt ((key, value) :: rest) other =
      if sameKey key other then some value else valueAt rest other := by
  rw [valueAt, List.find?_cons]
  cases sameKey key other <;> rfl

theorem valueAt_setEntry (entries : List (Value × α)) (name : String) (value : α) (other : Value) :
    valueAt (setEntry entries (.text name) value) other =
      if other = .text name then some value else valueAt entries other := by
  induction entries with
  | nil =>
    rw [setEntry, valueAt_cons]
    simp only [text_sameKey_iff, valueAt, List.find?_nil, Option.map_none]
  | cons entry rest ih =>
    obtain ⟨key, old⟩ := entry
    rw [setEntry]
    by_cases hkey : sameKey key (.text name) = true
    · rw [if_pos hkey, valueAt_cons, valueAt_cons, sameKey_text_iff.mp hkey]
      simp only [text_sameKey_iff]
      split <;> rfl
    · rw [if_neg hkey, valueAt_cons, valueAt_cons, ih]
      by_cases hother : other = .text name
      · rw [hother, if_neg hkey, if_pos rfl, if_pos rfl]
      · simp only [if_neg hother]

def Keyed (entries : List (Value × α)) : Prop :=
  entries.Pairwise fun entry other => sameKey entry.1 other.1 = false

theorem Keyed.setEntry {entries : List (Value × α)} (h : Keyed entries) (key : Value) (value : α) :
    Keyed (setEntry entries key value) := by
  induction entries with
  | nil => exact List.pairwise_singleton _ _
  | cons entry rest ih =>
    obtain ⟨first, old⟩ := entry
    obtain ⟨hfirst, hrest⟩ := List.pairwise_cons.mp h
    rw [Value.setEntry]
    by_cases hkey : sameKey first key = true
    · rw [if_pos hkey]
      exact List.pairwise_cons.mpr ⟨hfirst, hrest⟩
    · rw [if_neg hkey]
      refine List.pairwise_cons.mpr ⟨fun other hother => ?_, ih hrest⟩
      rcases mem_keys_setEntry (List.mem_map_of_mem hother) with hset | hold
      · rw [hset]
        exact Bool.eq_false_iff.mpr hkey
      · obtain ⟨kept, hkept, hsame⟩ := List.mem_map.mp hold
        rw [← hsame]
        exact hfirst kept hkept

end Keys

theorem entry?_cons (key value : Value) (rest : List (Value × Value)) (name : String) :
    Value.entry? ((key, value) :: rest) name =
      if sameKey key (.text name) then some value else Value.entry? rest name :=
  valueAt_cons key value rest (.text name)

theorem mem_of_entry? {entries : List (Value × Value)} {name : String} {v : Value}
    (h : Value.entry? entries name = some v) : (.text name, v) ∈ entries := by
  obtain ⟨⟨key, w⟩, hfind, rfl⟩ := Option.map_eq_some_iff.mp h
  have hsame := List.find?_some hfind
  have hkey : key = .text name := sameKey_text_iff.mp hsame
  exact hkey ▸ List.mem_of_find?_eq_some hfind

theorem exists_entry?_of_mem {entries : List (Value × Value)} {name : String} {v : Value}
    (h : (.text name, v) ∈ entries) : ∃ w, Value.entry? entries name = some w := by
  have hfound : (entries.find? fun e => sameKey e.1 (.text name)).isSome = true :=
    List.find?_isSome.mpr ⟨_, h, sameKey_text_iff.mpr rfl⟩
  obtain ⟨entry, hentry⟩ := Option.isSome_iff_exists.mp hfound
  exact ⟨entry.2, congrArg (Option.map Prod.snd) hentry⟩

theorem entry?_setEntry (entries : List (Value × Value)) (name other : String) (value : Value) :
    Value.entry? (setEntry entries (.text name) value) other =
      if name = other then some value else Value.entry? entries other := by
  have hvalue := valueAt_setEntry entries name value (.text other)
  by_cases h : name = other
  · rw [if_pos h]
    exact hvalue.trans (if_pos (h ▸ rfl))
  · rw [if_neg h]
    exact hvalue.trans (if_neg fun htext => h (text.inj htext).symm)

end Value

namespace Settings

open Value

theorem valueAt_foldl_setEntry (arguments : List (String × Value)) (entries : List (Value × Value))
    (key : Value) :
    valueAt (arguments.foldl (fun entries (name, v) => setEntry entries (.text name) v) entries) key =
      ((arguments.reverse.find? fun argument => key = .text argument.1).map Prod.snd).or
        (valueAt entries key) := by
  induction arguments generalizing entries with
  | nil => rfl
  | cons argument rest ih =>
    obtain ⟨given, v⟩ := argument
    rw [List.foldl_cons, ih, valueAt_setEntry, List.reverse_cons, List.find?_append]
    cases rest.reverse.find? fun argument => key = .text argument.1 with
    | some found => rfl
    | none => by_cases h : key = .text given <;> simp [h]

def sectionOf (config : List (Value × Value)) (command : String) : List (Value × Value) :=
  match Value.entry? config command with
  | some (.mapping entries) => entries
  | _ => []

/-- What holds of the section and is kept by every setting holds of the settings laid over it. -/
theorem overlay_induction {config : List (Value × Value)} {command : String}
    {arguments : List (String × Value)} {motive : List (Value × Value) → Prop}
    (base : motive (sectionOf config command))
    (step : ∀ entries name v, (name, v) ∈ arguments → motive entries →
      motive (setEntry entries (.text name) v)) :
    motive (overlay config command arguments) := by
  rw [overlay]
  refine List.foldlRecOn _ _ base fun entries hentries argument hargument => ?_
  exact step entries argument.1 argument.2 (List.mem_filter.mp hargument).1 hentries

theorem valueAt_overlay (config : List (Value × Value)) (command : String)
    (arguments : List (String × Value)) (key : Value) :
    valueAt (overlay config command arguments) key =
      (((arguments.filter fun (_, v) => !isUnset v).reverse.find? fun argument =>
        key = .text argument.1).map Prod.snd).or (valueAt (sectionOf config command) key) := by
  rw [overlay, valueAt_foldl_setEntry]
  rfl

/-- The last of the settings that is given decides; where none is given, the configuration does. -/
theorem entry?_overlay (config : List (Value × Value)) (command : String)
    (arguments : List (String × Value)) (name : String) :
    Value.entry? (overlay config command arguments) name =
      (((arguments.filter fun (_, v) => !isUnset v).reverse.find? (·.1 == name)).map
        Prod.snd).or (Value.entry? (sectionOf config command) name) := by
  have hname : (fun argument : String × Value => decide (Value.text name = .text argument.1)) =
      (·.1 == name) := by
    funext argument
    simp [eq_comm, beq_eq_decide]
  rw [← hname]
  exact valueAt_overlay config command arguments (.text name)

/-! ## What is given and what is not -/

theorem isUnset_iff {v : Value} :
    isUnset v = true ↔ v = .null ∨ v = .text "" ∨ v = .bool false ∨ v = .list [] ∨
      v = .tuple [] ∨ v = .int 0 ∨ ∃ x, v = .float x ∧ x.isZero = true := by
  cases v <;> simp [isUnset, isNothing]

section Given

variable (config : List (Value × Value)) (command : String) {arguments : List (String × Value)}

theorem valueAt_sectionOf (key : Value) :
    valueAt (sectionOf config command) key =
      match Value.entry? config command with
      | some (.mapping entries) => valueAt entries key
      | _ => none := by
  unfold sectionOf
  split <;> rfl

theorem valueAt_overlay_of_given (hnodup : (arguments.map Prod.fst).Nodup) {name : String}
    {v : Value} (hgiven : (name, v) ∈ arguments) (hset : isUnset v = false) :
    valueAt (overlay config command arguments) (.text name) = some v := by
  -- a name is given once, so the last value under it is the one that is given
  let given : Table Value := (arguments.filter fun (_, v) => !isUnset v).reverse
  have hmem : (name, v) ∈ given :=
    List.mem_reverse.mpr (List.mem_filter.mpr ⟨hgiven, by simp [hset]⟩)
  have hnames : (given.map Prod.fst).Nodup := by
    rw [List.map_reverse, List.nodup_reverse]
    exact hnodup.sublist (List.filter_sublist.map Prod.fst)
  calc valueAt (overlay config command arguments) (.text name)
      = (given.find? name).or (Value.entry? (sectionOf config command) name) :=
        entry?_overlay config command arguments name
    _ = some v := by rw [Table.find?_eq_some hnames hmem, Option.some_or]

theorem valueAt_overlay_of_not_given {key : Value}
    (hother : ∀ name v, (name, v) ∈ arguments → isUnset v = false → key ≠ .text name) :
    valueAt (overlay config command arguments) key = valueAt (sectionOf config command) key := by
  have hnone : (arguments.filter fun (_, v) => !isUnset v).reverse.find?
      (fun argument => key = .text argument.1) = none := by
    rw [List.find?_eq_none]
    intro argument hargument
    obtain ⟨hmem, hset⟩ := List.mem_filter.mp (List.mem_reverse.mp hargument)
    simpa using hother argument.1 argument.2 hmem (by simpa using hset)
  rw [valueAt_overlay, hnone, Option.map_none, Option.none_or]

/-- Settings that are given, each under a name of its own, have the values that they are given.
All other keys have the values that the section of the command has for them, if it is a mapping, and
none else.  Not given are the null value, the empty text, what is false, the empty list and tuple,
and whatever number is zero; an empty mapping is given. -/
theorem overlay_entries (hnodup : (arguments.map Prod.fst).Nodup) :
    (∀ name v, (name, v) ∈ arguments → isUnset v = false →
      valueAt (overlay config command arguments) (.text name) = some v) ∧
    (∀ key, (∀ name v, (name, v) ∈ arguments → isUnset v = false → key ≠ .text name) →
      valueAt (overlay config command arguments) key =
        match Value.entry? config command with
        | some (.mapping entries) => valueAt entries key
        | _ => none) ∧
    (Keyed (sectionOf config command) → Keyed (overlay config command arguments)) ∧
    ∀ v, isUnset v = true ↔ v = .null ∨ v = .text "" ∨ v = .bool false ∨ v = .list [] ∨
      v = .tuple [] ∨ v = .int 0 ∨ ∃ x, v = .float x ∧ x.isZero = true := by
  refine ⟨fun name v => valueAt_overlay_of_given config command hnodup, fun key hother => ?_,
    fun hkeyed => ?_, fun v => isUnset_iff⟩
  · rw [← valueAt_sectionOf]
    exact valueAt_overlay_of_not_given config command hother
  · exact overlay_induction (motive := Keyed) hkeyed
      fun entries name v _ hentries => hentries.setEntry (.text name) v

end Given

/-- A large number over a small one; what is null or not named is left to the section, a key that is
no text among it. -/
theorem overlay_entries_numbers :
    let config : List (Value × Value) := [(.text "count", .mapping
      [(.text "jobs", .int 4), (.text "sort", .text "code"), (.int 1, .bool true)])]
    let jobs : Value := .int 18446744073709551616
    let arguments : List (String × Value) := [("jobs", jobs), ("sort", .null)]
    let merged := overlay config "count" arguments
    (arguments.map Prod.fst).Nodup ∧ valueAt merged (.text "jobs") = some jobs ∧
      valueAt merged (.text "sort") = some (.text "code") ∧
      valueAt merged (.int 1) = some (.bool true) ∧ valueAt merged (.text "match") = none := by
  intro config jobs arguments merged
  have hnodup : (arguments.map Prod.fst).Nodup := by decide
  obtain ⟨hgiven, hother, -, -⟩ := overlay_entries config "count" hnodup
  have honly : ∀ name v, (name, v) ∈ arguments → isUnset v = false → name = "jobs" := by
    intro name v hmem hset
    rcases List.mem_cons.mp hmem with hjobs | hsort
    · exact congrArg Prod.fst hjobs
    · cases List.mem_singleton.mp hsort
      cases hset
  refine ⟨hnodup, hgiven "jobs" _ List.mem_cons_self (by decide), ?_, ?_, ?_⟩
  · refine (hother (.text "sort") fun name v hmem hset => ?_).trans rfl
    rw [honly name v hmem hset]
    decide
  · exact (hother (.int 1) fun name v _ _ => nofun).trans rfl
  · refine (hother (.text "match") fun name v hmem hset => ?_).trans rfl
    rw [honly name v hmem hset]
    decide

/-- Zero is not taken for a value that is given, and an empty mapping is. -/
theorem overlay_zero_and_empty :
    overlay [(.text "count", .mapping [(.text "jobs", .int 4)])] "count" [("jobs", .int 0)] =
        [(.text "jobs", .int 4)] ∧
      overlay [(.text "count", .mapping [(.text "sort", .text "code")])] "count"
        [("sort", .mapping [])] = [(.text "sort", .mapping [])] := by
  exact ⟨by decide, by decide⟩

end Settings

end LineCensus
