/-!
# Tables

Entries under names, in the order in which the names first came up.  Setting a name anew keeps
its place.
-/

namespace LineCensus

/-- Entries under names; each name once. -/
abbrev Table (α : Type) := List (String × α)

namespace Table

variable {α : Type}

def find? (t : Table α) (name : String) : Option α :=
  (List.find? (fun entry => entry.1 == name) t).map Prod.snd

def has (t : Table α) (name : String) : Bool :=
  (t.find? name).isSome

/-- Sets the entry under a name; a new name goes last. -/
def set (t : Table α) (name : String) (value : α) : Table α :=
  match t with
  | [] => [(name, value)]
  | (other, old) :: rest =>
    if other = name then (name, value) :: rest else (other, old) :: set rest name value

def update (t : Table α) (entries : List (String × α)) : Table α :=
  entries.foldl (fun t (name, value) => t.set name value) t

theorem find?_set_self (t : Table α) (name : String) (value : α) :
    (t.set name value).find? name = some value := by
  induction t with
  | nil => simp [set, find?]
  | cons entry rest ih =>
    obtain ⟨other, old⟩ := entry
    by_cases h : other = name
    · simp [set, find?, h]
    · simp only [find?] at ih
      simp [set, find?, h, ih]

theorem find?_set_of_ne (t : Table α) {name other : String} (value : α) (h : other ≠ name) :
    (t.set name value).find? other = t.find? other := by
  induction t with
  | nil => simp [set, find?, Ne.symm h]
  | cons entry rest ih =>
    obtain ⟨key, old⟩ := entry
    by_cases hk : key = name
    · subst hk
      simp [set, find?, Ne.symm h]
    · by_cases ho : key = other
      · subst ho
        simp [set, find?, hk]
      · simp only [find?] at ih
        simp [set, find?, hk, ho, ih]

theorem find?_cons (name other : String) (value : α) (t : Table α) :
    find? ((name, value) :: t) other = if name = other then some value else find? t other := by
  by_cases h : name = other <;> simp [find?, h]

theorem find?_set (t : Table α) (name other : String) (value : α) :
    (t.set name value).find? other = if name = other then some value else t.find? other := by
  by_cases h : name = other
  · rw [if_pos h, h, find?_set_self]
  · rw [if_neg h, find?_set_of_ne t value (Ne.symm h)]

theorem find?_append (t more : Table α) (name : String) :
    find? (t ++ more) name = (t.find? name).or (more.find? name) := by
  rw [find?, List.find?_append, Option.map_or]
  rfl

theorem find?_map {β : Type} (f : α → β) (t : Table α) (name : String) :
    find? (t.map fun (key, value) => (key, f value)) name = (t.find? name).map f := by
  induction t with
  | nil => rfl
  | cons entry rest ih =>
    obtain ⟨key, value⟩ := entry
    rw [List.map_cons, find?_cons, find?_cons, ih]
    split <;> rfl

theorem map_set {β : Type} (f : α → β) (t : Table α) (name : String) (value : α) :
    (t.set name value).map (fun (key, value) => (key, f value)) =
      set (t.map fun (key, value) => (key, f value)) name (f value) := by
  induction t with
  | nil => rfl
  | cons entry rest ih =>
    obtain ⟨key, old⟩ := entry
    rw [List.map_cons, set, set, ← ih]
    split <;> rfl

/-- The last of the entries that are set under a name counts. -/
theorem find?_update (t : Table α) (entries : List (String × α)) (name : String) :
    (t.update entries).find? name = (find? entries.reverse name).or (t.find? name) := by
  induction entries generalizing t with
  | nil => rfl
  | cons entry rest ih =>
    obtain ⟨key, value⟩ := entry
    rw [update, List.foldl_cons, ← update, ih, find?_set, List.reverse_cons, find?_append,
      find?_cons, Option.or_assoc]
    split <;> rfl

theorem mem_of_find? {t : Table α} {name : String} {value : α} (h : t.find? name = some value) :
    (name, value) ∈ t := by
  obtain ⟨⟨key, found⟩, hfind, rfl⟩ := Option.map_eq_some_iff.mp h
  have hkey := List.find?_some hfind
  rw [← beq_iff_eq.mp hkey]
  exact List.mem_of_find?_eq_some hfind

theorem not_mem_names {t : Table α} {name : String} (h : t.find? name = none) :
    name ∉ t.map Prod.fst := by
  induction t with
  | nil => exact List.not_mem_nil
  | cons entry rest ih =>
    obtain ⟨key, value⟩ := entry
    rw [find?_cons] at h
    split at h
    · cases h
    · next hkey =>
      rw [List.map_cons, List.mem_cons, not_or]
      exact ⟨Ne.symm hkey, ih h⟩

theorem find?_eq_none {t : Table α} {name : String} (h : name ∉ t.map Prod.fst) :
    t.find? name = none := by
  induction t with
  | nil => rfl
  | cons entry rest ih =>
    obtain ⟨key, value⟩ := entry
    rw [List.map_cons, List.mem_cons, not_or] at h
    rw [find?_cons, if_neg (Ne.symm h.1), ih h.2]

theorem find?_eq_some {t : Table α} (hnodup : (t.map Prod.fst).Nodup) {name : String} {value : α}
    (h : (name, value) ∈ t) : t.find? name = some value := by
  induction t with
  | nil => cases h
  | cons entry rest ih =>
    obtain ⟨key, first⟩ := entry
    rw [List.map_cons, List.nodup_cons] at hnodup
    rw [find?_cons]
    rcases List.mem_cons.mp h with hfirst | hrest
    · cases hfirst
      rw [if_pos rfl]
    · have hne : key ≠ name := by
        rintro rfl
        exact hnodup.1 (List.mem_map.mpr ⟨(key, value), hrest, rfl⟩)
      rw [if_neg hne, ih hnodup.2 hrest]

theorem mem_names_set {t : Table α} {name other : String} {value : α} :
    other ∈ (t.set name value).map Prod.fst ↔ other = name ∨ other ∈ t.map Prod.fst := by
  induction t with
  | nil => simp [set]
  | cons entry rest ih =>
    obtain ⟨key, old⟩ := entry
    by_cases hkey : key = name
    · simp [set, hkey]
    · rw [set, if_neg hkey, List.map_cons, List.map_cons, List.mem_cons, List.mem_cons, ih]
      simp only [or_left_comm]

theorem nodup_names_set {t : Table α} (h : (t.map Prod.fst).Nodup) (name : String) (value : α) :
    ((t.set name value).map Prod.fst).Nodup := by
  induction t with
  | nil => simp [set]
  | cons entry rest ih =>
    obtain ⟨key, old⟩ := entry
    rw [List.map_cons, List.nodup_cons] at h
    by_cases hkey : key = name
    · subst hkey
      rw [set, if_pos rfl]
      exact List.nodup_cons.mpr h
    · rw [set, if_neg hkey, List.map_cons, List.nodup_cons]
      refine ⟨?_, ih h.2⟩
      rw [mem_names_set, not_or]
      exact ⟨hkey, h.1⟩

end Table

end LineCensus
