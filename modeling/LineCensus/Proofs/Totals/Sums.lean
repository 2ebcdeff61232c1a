import LineCensus.Proofs.Sorting
import LineCensus.Totals
import Mathlib.Algebra.BigOperators.Group.List.Basic
import Mathlib.Algebra.Order.Ring.Int
import Mathlib.Data.List.Induction
import Mathlib.Data.List.Nodup

/-!
# Totals and the entries that they sum up

Totals keep the entries, a tally of each language and a tally of all files.  `Totals.Holds` says
that these three belong to one log of entries; taking in an entry and joining keep it, and the
outcome is then a function of the log.
-/

namespace LineCensus

instance : AddCommMonoid Tally where
  add_assoc := Tally.add_assoc
  add_comm := Tally.add_comm
  zero_add a := by ext <;> exact Int.zero_add _
  add_zero a := by ext <;> exact Int.add_zero _
  nsmul := nsmulRec

def sumOf (entries : List FileEntry) (language : String) : Tally :=
  ((entries.filter (·.language == language)).map FileEntry.tally).sum

theorem sumOf_append (l₁ l₂ : List FileEntry) (language : String) :
    sumOf (l₁ ++ l₂) language = sumOf l₁ language + sumOf l₂ language := by
  rw [sumOf, List.filter_append, List.map_append, List.sum_append]
  rfl

theorem sumOf_singleton (r : FileEntry) (language : String) :
    sumOf [r] language = if language = r.language then r.tally else 0 := by
  by_cases h : language = r.language
  · simp [sumOf, h]
  · simp [sumOf, h, Ne.symm h]

theorem sumOf_perm {l₁ l₂ : List FileEntry} (hperm : l₁.Perm l₂) (language : String) :
    sumOf l₁ language = sumOf l₂ language :=
  ((hperm.filter _).map _).sum_eq

/-- The numbers of a tally are those of some entries: how many there are, and the sums of their
lines of each kind and of their tokens. -/
structure Tally.Sums (t : Tally) (entries : List FileEntry) : Prop where
  files : t.files = entries.length
  code : t.code = (entries.map (·.code)).sum
  comment : t.comment = (entries.map (·.comment)).sum
  blank : t.blank = (entries.map (·.blank)).sum
  tokens : t.tokens = (entries.map (·.tokens)).sum

structure Tally.SumsRows (t : Tally) (rows : List LanguageEntry) : Prop where
  files : t.files = (rows.map (·.tally.files)).sum
  code : t.code = (rows.map (·.tally.code)).sum
  comment : t.comment = (rows.map (·.tally.comment)).sum
  blank : t.blank = (rows.map (·.tally.blank)).sum
  tokens : t.tokens = (rows.map (·.tally.tokens)).sum

/-- A number that is added up with the tallies is the sum of those of the tallies. -/
theorem Tally.part_sum {α : Type} {part : Tally → Int} (hzero : part 0 = 0)
    (hadd : ∀ a b, part (a + b) = part a + part b) (tally : α → Tally) (xs : List α) :
    part (xs.map tally).sum = (xs.map fun x => part (tally x)).sum := by
  induction xs with
  | nil => exact hzero
  | cons x rest ih => rw [List.map_cons, List.sum_cons, hadd, ih, List.map_cons, List.sum_cons]

theorem Tally.sumsRows_sum (rows : List LanguageEntry) :
    (rows.map LanguageEntry.tally).sum.SumsRows rows where
  files := part_sum rfl files_add _ rows
  code := part_sum rfl code_add _ rows
  comment := part_sum rfl comment_add _ rows
  blank := part_sum rfl blank_add _ rows
  tokens := part_sum rfl tokens_add _ rows

theorem Tally.sums_sum (entries : List FileEntry) :
    (entries.map FileEntry.tally).sum.Sums entries where
  files := by
    have hones : (entries.map fun _ => (1 : Int)).sum = entries.length := by simp
    exact (part_sum rfl files_add FileEntry.tally entries).trans hones
  code := part_sum rfl code_add FileEntry.tally entries
  comment := part_sum rfl comment_add FileEntry.tally entries
  blank := part_sum rfl blank_add FileEntry.tally entries
  tokens := part_sum rfl tokens_add FileEntry.tally entries

theorem Tally.sums_iff {t : Tally} {entries : List FileEntry} :
    t.Sums entries ↔ t = (entries.map FileEntry.tally).sum := by
  have hsum := sums_sum entries
  constructor
  · intro h
    ext
    · rw [h.files, hsum.files]
    · rw [h.code, hsum.code]
    · rw [h.comment, hsum.comment]
    · rw [h.blank, hsum.blank]
    · rw [h.tokens, hsum.tokens]
  · rintro rfl
    exact hsum

/-- The languages and the total of a census are those of the entries: one language for each that
occurs, by name, with the sums of its entries, and the sums of all, which are those of the
languages, too. -/
structure Census.SumsUp (c : Census) (entries : List FileEntry) : Prop where
  ascending : (c.languages.map (·.name)).Pairwise (· < ·)
  mem_names : ∀ name, name ∈ c.languages.map (·.name) ↔ name ∈ entries.map (·.language)
  rows : ∀ row ∈ c.languages, row.tally.Sums (entries.filter (·.language == row.name))
  total_name : c.total.name = totalName
  total : c.total.tally.Sums entries
  total_rows : c.total.tally.SumsRows c.languages

/-- The files of a census are the entries by path and then by language; entries that have both in
common keep their order. -/
structure Census.Lists (c : Census) (entries : List FileEntry) : Prop where
  perm : c.files.Perm entries
  ascending : c.files.Pairwise fun a b =>
    a.path < b.path ∨ a.path = b.path ∧ a.language ≤ b.language
  stable : ∀ path language,
    c.files.filter (fun r => r.path = path ∧ r.language = language) =
      entries.filter (fun r => r.path = path ∧ r.language = language)

theorem Census.SumsUp.tally_eq {c : Census} {entries : List FileEntry} (h : c.SumsUp entries)
    {row : LanguageEntry} (hrow : row ∈ c.languages) : row.tally = sumOf entries row.name :=
  Tally.sums_iff.mp (h.rows row hrow)

theorem Census.SumsUp.languages_eq {c : Census} {entries : List FileEntry}
    (h : c.SumsUp entries) :
    c.languages = (c.languages.map (·.name)).map fun name => ⟨name, sumOf entries name⟩ := by
  have hentry : ∀ language ∈ c.languages,
      LanguageEntry.mk language.name (sumOf entries language.name) = language := by
    intro language hlanguage
    rw [← h.tally_eq hlanguage]
  rw [List.map_map]
  exact ((List.map_congr_left hentry).trans (List.map_id' _)).symm

/-- The order of the entries does not show in the sums. -/
theorem Census.SumsUp.eq_of_perm {c d : Census} {l₁ l₂ : List FileEntry} (hc : c.SumsUp l₁)
    (hd : d.SumsUp l₂) (hperm : l₁.Perm l₂) : c.languages = d.languages ∧ c.total = d.total := by
  have hnames : c.languages.map (·.name) = d.languages.map (·.name) := by
    apply Sorting.eq_of_pairwise_lt id hc.ascending hd.ascending
    intro name
    rw [hc.mem_names, hd.mem_names, (hperm.map _).mem_iff]
  constructor
  · have hsums : sumOf l₁ = sumOf l₂ := funext (sumOf_perm hperm)
    rw [hc.languages_eq, hd.languages_eq, hnames, hsums]
  · have hname : c.total.name = d.total.name := hc.total_name.trans hd.total_name.symm
    have htally : c.total.tally = d.total.tally := by
      rw [Tally.sums_iff.mp hc.total, Tally.sums_iff.mp hd.total, (hperm.map _).sum_eq]
    cases hct : c.total
    cases hdt : d.total
    simp_all

theorem Census.SumsUp.mem_languages_iff {c : Census} {entries : List FileEntry}
    (h : c.SumsUp entries) (row : LanguageEntry) :
    row ∈ c.languages ↔
      row.name ∈ entries.map (·.language) ∧ row.tally = sumOf entries row.name := by
  constructor
  · intro hrow
    exact ⟨(h.mem_names row.name).mp (List.mem_map_of_mem hrow), h.tally_eq hrow⟩
  · rintro ⟨hname, htally⟩
    obtain ⟨other, hother, hsame⟩ := List.mem_map.mp ((h.mem_names row.name).mpr hname)
    have hsum : other.tally = row.tally := by
      rw [h.tally_eq hother, hsame, htally]
    have hrow : other = row :=
      calc other = ⟨other.name, other.tally⟩ := rfl
        _ = ⟨row.name, row.tally⟩ := by rw [hsame, hsum]
        _ = row := rfl
    rwa [← hrow]

theorem Census.SumsUp.mem_languages_congr {c d : Census} {l₁ l₂ : List FileEntry}
    (hc : c.SumsUp l₁) (hd : d.SumsUp l₂) {row : LanguageEntry}
    (hfilter : l₁.filter (·.language == row.name) = l₂.filter (·.language == row.name)) :
    row ∈ c.languages ↔ row ∈ d.languages := by
  have hnames : ∀ l : List FileEntry, row.name ∈ l.map (·.language) ↔
      l.filter (·.language == row.name) ≠ [] := by
    intro l
    simp [List.filter_eq_nil_iff]
  rw [hc.mem_languages_iff, hd.mem_languages_iff, hnames, hnames, sumOf, sumOf, hfilter]

namespace Totals

/-! ## The tally of a language -/

def tallyOf (languages : Table Tally) (name : String) : Tally :=
  (languages.find? name).getD {}

theorem tallyOf_addTo (languages : Table Tally) (name other : String) (t : Tally) :
    tallyOf (addTo languages name t) other =
      tallyOf languages other + if other = name then t else 0 := by
  by_cases h : other = name
  · rw [tallyOf, h, find?_addTo_self, if_pos rfl]
    rfl
  · rw [tallyOf, find?_addTo_of_ne languages t h, if_neg h, add_zero]
    rfl

theorem tallyOf_cons (name other : String) (t : Tally) (languages : Table Tally) :
    tallyOf ((name, t) :: languages) other = if name = other then t else tallyOf languages other := by
  rw [tallyOf, Table.find?_cons]
  split <;> rfl

theorem sum_addTo (languages : Table Tally) (name : String) (t : Tally) :
    ((addTo languages name t).map Prod.snd).sum = (languages.map Prod.snd).sum + t := by
  induction languages with
  | nil => exact add_zero (0 + t)
  | cons entry rest ih =>
    obtain ⟨key, old⟩ := entry
    by_cases hkey : key = name
    · rw [addTo, Table.find?_cons, Table.set, if_pos hkey, if_pos hkey]
      simp only [Option.getD_some, List.map_cons, List.sum_cons]
      rw [add_assoc, add_comm t, ← add_assoc]
    · rw [addTo, Table.find?_cons, Table.set, if_neg hkey, if_neg hkey, List.map_cons,
        List.sum_cons, List.map_cons, List.sum_cons, add_assoc, ← ih]
      rfl

/-! ## Joining tables -/

def joined (a b : Table Tally) : Table Tally :=
  b.foldl (fun t (name, tally) => addTo t name tally) a

theorem nodup_joined {a : Table Tally} (ha : (a.map Prod.fst).Nodup) (b : Table Tally) :
    ((joined a b).map Prod.fst).Nodup := by
  induction b generalizing a with
  | nil => exact ha
  | cons entry rest ih => exact ih (Table.nodup_names_set ha _ _)

theorem mem_names_joined (a b : Table Tally) (name : String) :
    name ∈ (joined a b).map Prod.fst ↔ name ∈ a.map Prod.fst ∨ name ∈ b.map Prod.fst := by
  induction b generalizing a with
  | nil => simp [joined]
  | cons entry rest ih =>
    have hstep : name ∈ (addTo a entry.1 entry.2).map Prod.fst ↔
        name = entry.1 ∨ name ∈ a.map Prod.fst := Table.mem_names_set
    rw [joined, List.foldl_cons, ← joined, ih, hstep, List.map_cons, List.mem_cons]
    exact or_assoc.trans or_left_comm

theorem sum_joined (a b : Table Tally) :
    ((joined a b).map Prod.snd).sum = (a.map Prod.snd).sum + (b.map Prod.snd).sum := by
  induction b generalizing a with
  | nil => exact (add_zero _).symm
  | cons entry rest ih =>
    rw [joined, List.foldl_cons, ← joined, ih, sum_addTo, List.map_cons, List.sum_cons, add_assoc]

theorem tallyOf_joined (a : Table Tally) {b : Table Tally} (hb : (b.map Prod.fst).Nodup)
    (name : String) : tallyOf (joined a b) name = tallyOf a name + tallyOf b name := by
  induction b generalizing a with
  | nil => exact (add_zero _).symm
  | cons entry rest ih =>
    obtain ⟨key, t⟩ := entry
    rw [List.map_cons, List.nodup_cons] at hb
    rw [joined, List.foldl_cons, ← joined, ih _ hb.2, tallyOf_addTo, tallyOf_cons]
    by_cases hkey : key = name
    · subst hkey
      have hrest : tallyOf rest key = 0 := by rw [tallyOf, Table.find?_eq_none hb.1]; rfl
      rw [if_pos rfl, if_pos rfl, hrest, add_zero]
    · rw [if_neg hkey, if_neg (Ne.symm hkey), add_zero]

/-! ## Totals of a log -/

/-- The entries, the languages and the total are all those of the log. -/
structure Holds (a : Totals) (log : List FileEntry) : Prop where
  files : a.files = log
  nodup : (a.languages.map Prod.fst).Nodup
  mem_names : ∀ name, name ∈ a.languages.map Prod.fst ↔ name ∈ log.map (·.language)
  tally : ∀ name, tallyOf a.languages name = sumOf log name
  total : a.total = (log.map FileEntry.tally).sum
  sum_languages : (a.languages.map Prod.snd).sum = a.total

theorem Holds.empty : Holds {} [] :=
  ⟨rfl, List.nodup_nil, fun _ => Iff.rfl, fun _ => rfl, rfl, rfl⟩

theorem Holds.add {a : Totals} {log : List FileEntry} (h : a.Holds log) (r : FileEntry) :
    (a.add r).Holds (log ++ [r]) where
  files := by rw [Totals.add, h.files]
  nodup := Table.nodup_names_set h.nodup _ _
  mem_names name := by
    rw [Totals.add, addTo, Table.mem_names_set, h.mem_names, List.map_append, List.mem_append,
      List.map_singleton, List.mem_singleton, or_comm]
  tally name := by rw [Totals.add, tallyOf_addTo, h.tally, sumOf_append, sumOf_singleton]
  total := by
    rw [Totals.add, h.total, List.map_append, List.sum_append, List.map_singleton,
      List.sum_singleton]
  sum_languages := by rw [Totals.add, sum_addTo, h.sum_languages]

theorem Holds.join {a b : Totals} {l₁ l₂ : List FileEntry} (ha : a.Holds l₁) (hb : b.Holds l₂) :
    (a.join b).Holds (l₁ ++ l₂) where
  files := by rw [Totals.join, ha.files, hb.files]
  nodup := nodup_joined ha.nodup b.languages
  mem_names name := by
    rw [Totals.join, ← joined, mem_names_joined, ha.mem_names, hb.mem_names, List.map_append,
      List.mem_append]
  tally name := by
    rw [Totals.join, ← joined, tallyOf_joined _ hb.nodup, ha.tally, hb.tally, sumOf_append]
  total := by rw [Totals.join, ha.total, hb.total, List.map_append, List.sum_append]
  sum_languages := by
    rw [Totals.join, ← joined, sum_joined, ha.sum_languages, hb.sum_languages]

theorem ofList_concat (entries : List FileEntry) (r : FileEntry) :
    ofList (entries ++ [r]) = (ofList entries).add r := by
  simp [ofList]

theorem holds_ofList (entries : List FileEntry) : (ofList entries).Holds entries := by
  induction entries using List.reverseRecOn with
  | nil => exact .empty
  | append_singleton entries r ih =>
    rw [ofList_concat]
    exact ih.add r

theorem Holds.sumsUp {a : Totals} {log : List FileEntry} (h : a.Holds log) :
    a.census.SumsUp log := by
  have hperm := List.mergeSort_perm a.languages fun x y => x.1 ≤ y.1
  have hnames : (a.census.languages.map (·.name)) =
      (a.languages.mergeSort fun x y => x.1 ≤ y.1).map Prod.fst := by
    rw [census, List.map_map]
    rfl
  have htallies : (a.census.languages.map (·.tally)) =
      (a.languages.mergeSort fun x y => x.1 ≤ y.1).map Prod.snd := by
    rw [census, List.map_map]
    rfl
  refine ⟨?_, ?_, ?_, rfl, Tally.sums_iff.mpr h.total, ?_⟩
  · rw [hnames, List.pairwise_map]
    exact Sorting.pairwise_lt_mergeSort Prod.fst h.nodup
  · intro name
    rw [hnames, (hperm.map _).mem_iff, h.mem_names]
  · intro row hrow
    obtain ⟨⟨name, t⟩, hmem, rfl⟩ := List.mem_map.mp hrow
    rw [Tally.sums_iff]
    show t = sumOf log name
    rw [← h.tally, tallyOf, Table.find?_eq_some h.nodup (hperm.mem_iff.mp hmem)]
    rfl
  · have htotal : a.census.total.tally = (a.census.languages.map (·.tally)).sum := by
      rw [htallies, (hperm.map _).sum_eq, h.sum_languages]
      rfl
    rw [htotal]
    exact Tally.sumsRows_sum _

/-! ## The order of the files -/

theorem fileLe_iff {a b : FileEntry} :
    fileLe a b = true ↔ a.path < b.path ∨ a.path = b.path ∧ a.language ≤ b.language := by
  simp [fileLe]

theorem fileLe_trans (a b c : FileEntry) (hab : fileLe a b = true) (hbc : fileLe b c = true) :
    fileLe a c = true := by
  rw [fileLe_iff] at hab hbc ⊢
  rcases hab with hab | ⟨hpath, hab⟩
  · rcases hbc with hbc | ⟨hpath, -⟩
    · exact .inl (String.lt_trans hab hbc)
    · exact .inl (hpath ▸ hab)
  · rcases hbc with hbc | ⟨hpath', hbc⟩
    · exact .inl (hpath ▸ hbc)
    · exact .inr ⟨hpath.trans hpath', String.le_trans hab hbc⟩

theorem fileLe_total (a b : FileEntry) : (fileLe a b || fileLe b a) = true := by
  rw [Bool.or_eq_true, fileLe_iff, fileLe_iff]
  by_cases hab : a.path < b.path
  · exact .inl (.inl hab)
  by_cases hba : b.path < a.path
  · exact .inr (.inl hba)
  have hpath : a.path = b.path :=
    String.le_antisymm (String.not_lt.mp hba) (String.not_lt.mp hab)
  rcases String.le_total a.language b.language with hle | hle
  · exact .inl (.inr ⟨hpath, hle⟩)
  · exact .inr (.inr ⟨hpath.symm, hle⟩)

theorem fileLe_antisymm {a b : FileEntry} (hab : fileLe a b = true) (hba : fileLe b a = true) :
    (a.path, a.language) = (b.path, b.language) := by
  rw [fileLe_iff] at hab hba
  rcases hab with hab | ⟨hpath, hab⟩ <;> rcases hba with hba | ⟨hpath', hba⟩
  · exact absurd (String.lt_trans hab hba) (String.lt_irrefl _)
  · exact absurd (hpath' ▸ hab) (String.lt_irrefl _)
  · exact absurd (hpath ▸ hba) (String.lt_irrefl _)
  · rw [hpath, String.le_antisymm hab hba]

theorem Holds.files_census {a : Totals} {log : List FileEntry} (h : a.Holds log) :
    a.census.files = log.mergeSort fileLe := by
  rw [census, h.files]

theorem Holds.lists {a : Totals} {log : List FileEntry} (h : a.Holds log) :
    a.census.Lists log := by
  refine ⟨?_, ?_, ?_⟩ <;> rw [h.files_census]
  · exact List.mergeSort_perm log fileLe
  · exact (List.pairwise_mergeSort fileLe_trans fileLe_total log).imp fileLe_iff.mp
  · intro path language
    apply Sorting.filter_mergeSort fileLe_trans fileLe_total
    intro a b ha hb
    rw [decide_eq_true_eq] at ha hb
    rw [fileLe_iff, ha.1, ha.2, hb.1, hb.2]
    exact .inr ⟨rfl, String.le_refl _⟩

/-- The outcome is a function of the log. -/
theorem Holds.census_eq {a : Totals} {log : List FileEntry} (h : a.Holds log) :
    a.census = Census.ofEntries log := by
  have hlog := holds_ofList log
  obtain ⟨hlanguages, htotal⟩ := h.sumsUp.eq_of_perm hlog.sumsUp (.refl log)
  have hfiles : a.census.files = (ofList log).census.files :=
    h.files_census.trans hlog.files_census.symm
  cases hcensus : a.census
  rw [hcensus] at hlanguages htotal hfiles
  rw [Census.ofEntries]
  cases hof : (ofList log).census
  simp_all

theorem files_ofEntries_perm {l₁ l₂ : List FileEntry} (hperm : l₁.Perm l₂)
    (hkeys : (l₁.map fun r => (r.path, r.language)).Nodup) :
    (Census.ofEntries l₁).files = (Census.ofEntries l₂).files := by
  rw [Census.ofEntries, Census.ofEntries, (holds_ofList l₁).files_census,
    (holds_ofList l₂).files_census]
  apply Sorting.mergeSort_eq_of_perm fileLe_trans fileLe_total hperm
  intro a ha b hb hab hba
  exact List.inj_on_of_nodup_map hkeys ha hb (fileLe_antisymm hab hba)

end Totals

end LineCensus
