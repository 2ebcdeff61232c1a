import LineCensus.Proofs.Totals.Sums

/-!
# Totals under names

A program makes totals under names, takes in entries, joins totals under new or old names, and
takes outcomes.  Beside it runs a history that keeps nothing but the entries that have arrived
under each name; each outcome is the outcome of a list of entries from the history.
-/

namespace LineCensus.Totals

/-- A step of a program over named totals. -/
inductive Step where
  | create (name : String)
  | add (name : String) (entry : FileEntry)
  | join (first second into : String)
  | outcome (name : String)

def Step.target : Step → Option String
  | .create name => some name
  | .add name _ => some name
  | .join _ _ into => some into
  | .outcome _ => none

structure Store where
  named : Table Totals := []
  taken : List Census := []

def Store.at (s : Store) (name : String) : Totals :=
  (s.named.find? name).getD {}

def Store.after (s : Store) : Step → Store
  | .create name => { s with named := s.named.set name {} }
  | .add name entry => { s with named := s.named.set name ((s.at name).add entry) }
  | .join first second into =>
    { s with named := s.named.set into ((s.at first).join (s.at second)) }
  | .outcome name => { s with taken := s.taken ++ [(s.at name).census] }

/-- The entries that have arrived under each name, and those of which outcomes were taken. -/
structure History where
  log : String → List FileEntry := fun _ => []
  taken : List (List FileEntry) := []

def History.after (h : History) : Step → History
  | .create name => { h with log := Function.update h.log name [] }
  | .add name entry => { h with log := Function.update h.log name (h.log name ++ [entry]) }
  | .join first second into =>
    { h with log := Function.update h.log into (h.log first ++ h.log second) }
  | .outcome name => { h with taken := h.taken ++ [h.log name] }

def Store.run (program : List Step) : Store :=
  program.foldl Store.after {}

def History.run (program : List Step) : History :=
  program.foldl History.after {}

theorem Store.run_concat (program : List Step) (step : Step) :
    run (program ++ [step]) = (run program).after step := by
  simp [run]

theorem History.run_concat (program : List Step) (step : Step) :
    run (program ++ [step]) = (run program).after step := by
  simp [run]

/-! ## One step -/

theorem Store.at_set (s : Store) (name other : String) (a : Totals) :
    ({ s with named := s.named.set name a } : Store).at other =
      if other = name then a else s.at other := by
  by_cases h : other = name
  · rw [if_pos h, h, Store.at, Table.find?_set_self]
    rfl
  · rw [if_neg h, Store.at, Table.find?_set_of_ne _ _ h, Store.at]

/-- A step touches no totals but those of its target. -/
theorem Store.at_after_of_ne (s : Store) {step : Step} {name : String}
    (h : step.target ≠ some name) : (s.after step).at name = s.at name := by
  have hset : ∀ target a, step.target = some target →
      ({ s with named := s.named.set target a } : Store).at name = s.at name := by
    intro target a htarget
    rw [at_set, if_neg]
    rintro rfl
    exact h htarget
  cases step with
  | create target => exact hset target _ rfl
  | add target entry => exact hset target _ rfl
  | join first second into => exact hset into _ rfl
  | outcome target => rfl

/-- What is under each name belongs to the log of the name. -/
structure Store.Follows (s : Store) (h : History) : Prop where
  holds : ∀ name, (s.at name).Holds (h.log name)
  taken : s.taken = h.taken.map Census.ofEntries

theorem Store.Follows.set {s : Store} {h : History} (hs : s.Follows h) {name : String}
    {a : Totals} {log : List FileEntry} (ha : a.Holds log) :
    Store.Follows { s with named := s.named.set name a }
      { h with log := Function.update h.log name log } where
  holds other := by
    rw [at_set]
    show (if other = name then a else s.at other).Holds (Function.update h.log name log other)
    by_cases hother : other = name
    · subst hother
      rw [if_pos rfl, Function.update_self]
      exact ha
    · rw [if_neg hother, Function.update_of_ne hother]
      exact hs.holds other
  taken := hs.taken

theorem Store.Follows.after {s : Store} {h : History} (hs : s.Follows h) (step : Step) :
    (s.after step).Follows (h.after step) := by
  cases step with
  | create name => exact hs.set .empty
  | add name entry => exact hs.set ((hs.holds name).add entry)
  | join first second into => exact hs.set ((hs.holds first).join (hs.holds second))
  | outcome name =>
    refine ⟨hs.holds, ?_⟩
    rw [Store.after, History.after, hs.taken, (hs.holds name).census_eq, List.map_append,
      List.map_singleton]

/-! ## Programs -/

theorem Store.follows_run (program : List Step) : (run program).Follows (History.run program) := by
  induction program using List.reverseRecOn with
  | nil => exact ⟨fun _ => .empty, rfl⟩
  | append_singleton program step ih =>
    rw [run_concat, History.run_concat]
    exact ih.after step

theorem Store.at_run_append (program later : List Step) {name : String}
    (h : ∀ step ∈ later, step.target ≠ some name) :
    (run (program ++ later)).at name = (run program).at name := by
  induction later using List.reverseRecOn with
  | nil => rw [List.append_nil]
  | append_singleton later step ih =>
    rw [← List.append_assoc, run_concat, at_after_of_ne _ (h step (by simp))]
    exact ih fun earlier hearlier => h earlier (by simp [hearlier])

inductive JoinTree where
  | leaf (name : String)
  | join (left right : JoinTree)

def JoinTree.totals (s : Store) : JoinTree → Totals
  | .leaf name => s.at name
  | .join left right => (left.totals s).join (right.totals s)

def JoinTree.log (h : History) : JoinTree → List FileEntry
  | .leaf name => h.log name
  | .join left right => left.log h ++ right.log h

theorem JoinTree.holds {s : Store} {h : History} (hs : s.Follows h) (tree : JoinTree) :
    (tree.totals s).Holds (tree.log h) := by
  induction tree with
  | leaf name => exact hs.holds name
  | join left right hleft hright => exact hleft.join hright

/-- After any program, the outcome of the totals under a name is that of the entries that have
arrived there: they are listed by path and language, with their sums by language and in all.  So
joining is associative and can be nested in any way, a program that does not make, fill or replace
the totals under a name leaves them as they are, and entries that arrive in another order change
no sums, and no files unless path and language coincide. -/
theorem census_run (program : List Step) :
    let s := Store.run program
    let h := History.run program
    (∀ name, (s.at name).census = Census.ofEntries (h.log name)) ∧
    s.taken = h.taken.map Census.ofEntries ∧
    (∀ log, (Census.ofEntries log).Lists log ∧ (Census.ofEntries log).SumsUp log) ∧
    (∀ x y z, ((s.at x).join ((s.at y).join (s.at z))).census =
      (((s.at x).join (s.at y)).join (s.at z)).census) ∧
    (∀ tree : JoinTree, (tree.totals s).census = Census.ofEntries (tree.log h)) ∧
    (∀ later name, (∀ step ∈ later, step.target ≠ some name) →
      (Store.run (program ++ later)).at name = s.at name) ∧
    (∀ log₁ log₂ : List FileEntry, log₁.Perm log₂ →
      (Census.ofEntries log₁).languages = (Census.ofEntries log₂).languages ∧
      (Census.ofEntries log₁).total = (Census.ofEntries log₂).total ∧
      ((log₁.map fun r => (r.path, r.language)).Nodup →
        (Census.ofEntries log₁).files = (Census.ofEntries log₂).files)) := by
  intro s h
  have hs : s.Follows h := Store.follows_run program
  refine ⟨fun name => (hs.holds name).census_eq, hs.taken, ?_, ?_, ?_, ?_, ?_⟩
  · intro log
    exact ⟨(holds_ofList log).lists, (holds_ofList log).sumsUp⟩
  · intro x y z
    have hright := ((hs.holds x).join ((hs.holds y).join (hs.holds z))).census_eq
    have hleft := (((hs.holds x).join (hs.holds y)).join (hs.holds z)).census_eq
    rw [hright, hleft, List.append_assoc]
  · intro tree
    exact (tree.holds hs).census_eq
  · intro later name htarget
    exact Store.at_run_append program later htarget
  · intro log₁ log₂ hperm
    obtain ⟨hlanguages, htotal⟩ :=
      (holds_ofList log₁).sumsUp.eq_of_perm (holds_ofList log₂).sumsUp hperm
    exact ⟨hlanguages, htotal, files_ofEntries_perm hperm⟩

/-- Totals joined with themselves, taken in under a new name and then under their own, where
further entries leave the copy alone. -/
theorem census_run_copied :
    let r : FileEntry := { path := "b", language := "Go", code := 2 }
    let q : FileEntry := { path := "a", language := "Go", code := 1 }
    let program : List Step :=
      [.create "x", .add "x" r, .join "x" "x" "y", .join "x" "y" "x", .outcome "x"]
    let later : List Step := [.add "x" q, .create "z"]
    let s := Store.run program
    (s.at "x").census = Census.ofEntries [r, r, r] ∧
    s.taken = [Census.ofEntries [r, r, r]] ∧
    (∀ step ∈ later, step.target ≠ some "y") ∧
    (Store.run (program ++ later)).at "y" = s.at "y" ∧
    [r, q].Perm [q, r] ∧ ([r, q].map fun r => (r.path, r.language)).Nodup ∧
    (Census.ofEntries [r, q]).total = (Census.ofEntries [q, r]).total ∧
    (Census.ofEntries [r, q]).files = (Census.ofEntries [q, r]).files := by
  intro r q program later s
  obtain ⟨hname, htaken, -, -, -, hlater, hperm⟩ := census_run program
  have htarget : ∀ step ∈ later, step.target ≠ some "y" := by decide
  have hswap : [r, q].Perm [q, r] := .swap q r []
  have hkeys : ([r, q].map fun r => (r.path, r.language)).Nodup := by decide
  obtain ⟨-, htotal, hfiles⟩ := hperm [r, q] [q, r] hswap
  exact ⟨hname "x", htaken, htarget, hlater later "y" htarget, hswap, hkeys, htotal, hfiles hkeys⟩

end LineCensus.Totals
