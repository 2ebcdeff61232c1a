import LineCensus.Proofs.Language.FirstLine
import Mathlib.Data.List.TakeWhile

/-!
# The program that a line names

The program is what follows the last slash of a path, up to the first character that is no letter,
or else the argument of `env`.  The path is followed as long as it consists of letters, dots and
slashes: whatever else stands in a directory ends it, and a directory may be taken for the program.
-/

namespace LineCensus.Shebang

/-! ## Paths -/

theorem isPathChar_of_isLetter {c : Char} (h : isLetter c = true) : isPathChar c = true := by
  simp [isPathChar, h]

theorem programName?_takeWhile (s : List Char) :
    programName? (s.takeWhile isPathChar) = programName? s := by
  have hletters : (s.takeWhile isPathChar).takeWhile isLetter = s.takeWhile isLetter := by
    rw [List.takeWhile_takeWhile]
    congr 1
    funext c
    cases hc : isLetter c with
    | false => simp
    | true => simp [isPathChar_of_isLetter hc]
  rw [programName?, programName?, hletters]

theorem lastComponent?_append_cons {c : Char} (hc : isPathChar c = false)
    (start more : List Char) :
    lastComponent? (start ++ c :: more) = lastComponent? start := by
  rw [lastComponent?, Text.takeWhile_append_of_stop (by simpa using hc), ← lastComponent?]

section Path

variable {start : List Char} (hpath : ∀ c ∈ start, isPathChar c = true)

include hpath

/-- What follows the last slash of a path names the program, if it starts with a letter. -/
theorem lastComponent?_append (hne : start ≠ []) {command name : List Char}
    (hlast : '/' ∉ command.takeWhile isPathChar) (hname : programName? command = some name) :
    lastComponent? (start ++ '/' :: command) = some name := by
  obtain ⟨first, more, rfl⟩ := List.exists_cons_of_ne_nil hne
  have hslash : isPathChar '/' = true := by decide
  have hrun : ((first :: more) ++ '/' :: command).takeWhile isPathChar =
      first :: (more ++ '/' :: command.takeWhile isPathChar) := by
    rw [List.takeWhile_append_of_pos hpath, List.takeWhile_cons_of_pos hslash, List.cons_append]
  have hparts : (more ++ '/' :: command.takeWhile isPathChar).splitOn '/' =
      more.splitOn '/' ++ [command.takeWhile isPathChar] := by
    rw [List.splitOn_append_cons_self, List.splitOn_eq_singleton hlast]
  rw [lastComponent?, hrun, List.drop_one, List.tail_cons, Text.splitAt_eq_splitOn, hparts,
    List.tail_append_of_ne_nil (List.splitOn_ne_nil '/' more), List.reverse_append]
  simp [programName?_takeWhile, hname]

end Path

/-! ## Arguments of `env` -/

theorem visible_of_all {s : List Char} (h : s.all (!Text.isBlank ·) = true) :
    ∀ c ∈ s, Text.isBlank c = false := by
  simpa using h

section Env

variable {path : List Char} (hvisible : ∀ c ∈ path, Text.isBlank c = false)

include hvisible

theorem takeWhile_visible {rest : List Char} (hrest : ∀ c ∈ rest.head?, Text.isBlank c = true) :
    (path ++ rest).takeWhile (!Text.isBlank ·) = path := by
  rw [Text.takeWhile_append_of_stop fun c hc => by simp [hrest c hc]]
  exact List.takeWhile_eq_self_iff.mpr fun c hc => by simp [hvisible c hc]

theorem envArgument?_append (hne : path ≠ []) (rest : List Char) :
    envArgument? (path ++ ['/', 'e', 'n', 'v'] ++ ' ' :: rest) = programName? rest := by
  have henv : ∀ c ∈ path ++ ['/', 'e', 'n', 'v'], Text.isBlank c = false := by
    rw [List.forall_mem_append]
    exact ⟨hvisible, visible_of_all (by decide)⟩
  have hspace : ∀ c ∈ (' ' :: rest).head?, Text.isBlank c = true := by
    simp [Text.isBlank_space]
  have hrun := takeWhile_visible henv hspace
  have hlength : 4 < (path ++ ['/', 'e', 'n', 'v']).length := by
    have hpos := List.length_pos_iff.mpr hne
    simp
    omega
  have hsuffix : List.isSuffixOf "/env".toList (path ++ ['/', 'e', 'n', 'v']) = true := by
    rw [List.isSuffixOf_iff_suffix]
    exact List.suffix_append path _
  unfold envArgument?
  rw [hrun]
  simp only [hsuffix, hlength, decide_true, Bool.and_self, if_true, List.drop_left]

end Env

/-- The argument of `env` is the program that is named right after a path to it and one space. -/
theorem envArgument?_eq_some_iff {command name : List Char} :
    envArgument? command = some name ↔
      ∃ path rest, command = path ++ ['/', 'e', 'n', 'v'] ++ ' ' :: rest ∧ path ≠ [] ∧
        (∀ c ∈ path, Text.isBlank c = false) ∧ programName? rest = some name := by
  constructor
  · intro h
    simp only [envArgument?] at h
    split at h
    · next hcond =>
      obtain ⟨hsuffix, hlength⟩ := Bool.and_eq_true_iff.mp hcond
      obtain ⟨path, hpath⟩ := List.isSuffixOf_iff_suffix.mp hsuffix
      have hrun := List.prefix_iff_eq_take.mp
        (List.takeWhile_prefix (!Text.isBlank ·) (l := command))
      split at h
      · next rest hdrop =>
        refine ⟨path, rest, ?_, ?_, fun c hc => ?_, h⟩
        · rw [← hdrop]
          nth_rewrite 1 [← List.take_append_drop _ command, ← hrun, ← hpath]
          rfl
        · rintro rfl
          rw [← hpath] at hlength
          exact absurd hlength (by decide)
        · have hmem := hpath ▸ List.mem_append_left _ hc
          simpa using List.mem_takeWhile_imp hmem
      · cases h
    · cases h
  · rintro ⟨path, rest, rfl, hne, hvisible, hname⟩
    rw [envArgument?_append hvisible hne, hname]

theorem envArgument?_eq_none_of_suffix {path rest : List Char}
    (hvisible : ∀ c ∈ path, Text.isBlank c = false)
    (hrest : ∀ c ∈ rest.head?, Text.isBlank c = true)
    (hother : ¬['/', 'e', 'n', 'v'] <:+ path) : envArgument? (path ++ rest) = none := by
  rw [Option.eq_none_iff_forall_ne_some]
  intro name h
  obtain ⟨before, after, heq, -, hbefore, -⟩ := envArgument?_eq_some_iff.mp h
  have henv : ∀ c ∈ before ++ ['/', 'e', 'n', 'v'], Text.isBlank c = false := by
    rw [List.forall_mem_append]
    exact ⟨hbefore, visible_of_all (by decide)⟩
  have hrun := congrArg (List.takeWhile (!Text.isBlank ·)) heq
  rw [takeWhile_visible hvisible hrest,
    takeWhile_visible henv (by simp [Text.isBlank_space])] at hrun
  exact hother ⟨before, hrun.symm⟩

theorem envArgument?_eq_none_of_path {path : List Char} (hpath : ∀ c ∈ path, isPathChar c = true) :
    envArgument? path = none := by
  rw [Option.eq_none_iff_forall_ne_some]
  intro name h
  obtain ⟨before, after, rfl, -⟩ := envArgument?_eq_some_iff.mp h
  exact absurd (hpath ' ' (by simp)) (by decide)

/-! ## Lines -/

theorem interpreter?_of_command (spaces : Nat) {command : List Char}
    (h : ∀ c ∈ command.head?, c ≠ ' ') :
    interpreter? ('#' :: '!' :: (List.replicate spaces ' ' ++ command)) =
      ((envArgument? command).or (lastComponent? command)).map wordFor := by
  have hcommand : (List.replicate spaces ' ' ++ command).dropWhile (· == ' ') = command := by
    rw [List.dropWhile_append_of_pos (by simp)]
    cases command with
    | nil => rfl
    | cons c rest => exact List.dropWhile_cons_of_neg (by simpa using h c rfl)
  simp only [interpreter?, hcommand]

/-- A component of a path: it is not empty, and holds neither slashes nor white space. -/
def Component (part : List Char) : Prop :=
  part ≠ [] ∧ '/' ∉ part ∧ ∀ c ∈ part, Text.isBlank c = false

instance : DecidablePred Component := fun part =>
  decidable_of_iff (part ≠ [] ∧ '/' ∉ part ∧ part.all (!Text.isBlank ·) = true)
    (by simp [Component])

def rooted (parts : List (List Char)) : List Char :=
  parts.flatMap ('/' :: ·)

theorem rooted_concat (dirs : List (List Char)) (program : List Char) :
    rooted (dirs ++ [program]) = rooted dirs ++ '/' :: program := by
  simp [rooted]

/-- Two paths that end in the same way end in the same component. -/
theorem eq_of_suffix_slash {program name : List Char} (hprogram : '/' ∉ program)
    (hname : '/' ∉ name) {start : List Char} (h : '/' :: name <:+ start ++ '/' :: program) :
    program = name := by
  have hsuffix : '/' :: program <:+ start ++ '/' :: program := List.suffix_append start _
  rcases List.suffix_or_suffix_of_suffix hsuffix h with hs | hs
  · rcases List.suffix_cons_iff.mp hs with heq | hwithin
    · exact List.tail_eq_of_cons_eq heq
    · exact absurd (hwithin.subset List.mem_cons_self) hname
  · rcases List.suffix_cons_iff.mp hs with heq | hwithin
    · exact (List.tail_eq_of_cons_eq heq).symm
    · exact absurd (hwithin.subset List.mem_cons_self) hprogram

theorem isBlank_of_mem_rooted {parts : List (List Char)} (hparts : ∀ part ∈ parts, Component part) :
    ∀ c ∈ rooted parts, Text.isBlank c = false := by
  intro c hc
  obtain ⟨part, hpart, hc⟩ := List.mem_flatMap.mp hc
  rcases List.mem_cons.mp hc with rfl | hc
  · decide
  · exact (hparts part hpart).2.2 c hc

theorem programName?_append {program rest : List Char}
    (hletter : ∃ c ∈ program.head?, isLetter c = true)
    (hrest : ∀ c ∈ rest.head?, isLetter c = false) :
    programName? (program ++ rest) = some (program.takeWhile isLetter) := by
  obtain ⟨c, hc, hfirst⟩ := hletter
  obtain ⟨more, rfl⟩ := List.head?_eq_some_iff.mp hc
  rw [programName?, Text.takeWhile_append_of_stop hrest]
  simp [hfirst]

/-- A line that names a program other than `env` by a path from the root, with a directory at least.
Where all directories consist of letters and dots, the word is that of the program, up to the first
character that is no letter.  Otherwise the line says what it would say if it ended at the first
other character, so that the program has no part in it and a directory may be taken for one. -/
theorem interpreter?_rooted (spaces : Nat) {dirs : List (List Char)} {program rest : List Char}
    (hdirs : dirs ≠ []) (hparts : ∀ part ∈ dirs ++ [program], Component part)
    (henv : program ≠ ['e', 'n', 'v']) (hletter : ∃ c ∈ program.head?, isLetter c = true)
    (hrest : ∀ c ∈ rest.head?, c = ' ') :
    let directory := rooted dirs
    let line := '#' :: '!' :: (List.replicate spaces ' ' ++ (directory ++ '/' :: program ++ rest))
    ((∀ c ∈ directory, isPathChar c = true) →
      interpreter? line = some (wordFor (program.takeWhile isLetter))) ∧
    ∀ start c more, directory = start ++ c :: more → (∀ c ∈ start, isPathChar c = true) →
      isPathChar c = false → interpreter? line = interpreter? ('#' :: '!' :: start) := by
  intro directory line
  have hslash : '/' ∉ program := (hparts program (by simp)).2.1
  have hvisible : ∀ c ∈ directory ++ '/' :: program, Text.isBlank c = false := by
    rw [← rooted_concat]
    exact isBlank_of_mem_rooted hparts
  have hend : ∀ {p : Char → Bool} {answer : Bool}, p ' ' = answer →
      ∀ c ∈ rest.head?, p c = answer := by
    intro p answer hp c hc
    rw [hrest c hc, hp]
  have hline : interpreter? line =
      (lastComponent? (directory ++ '/' :: program ++ rest)).map wordFor := by
    obtain ⟨first, others, rfl⟩ := List.exists_cons_of_ne_nil hdirs
    have hnone : envArgument? (directory ++ '/' :: program ++ rest) = none :=
      envArgument?_eq_none_of_suffix hvisible (hend Text.isBlank_space) fun h =>
        henv (eq_of_suffix_slash hslash (by decide) h)
    rw [interpreter?_of_command spaces (by rintro c ⟨⟩; decide), hnone, Option.none_or]
  refine ⟨fun hpath => ?_, fun start c more heq hpath hc => ?_⟩
  · have hlast : '/' ∉ (program ++ rest).takeWhile isPathChar := by
      rw [Text.takeWhile_append_of_stop (hend (by decide))]
      exact fun hmem => hslash ((List.takeWhile_prefix _).subset hmem)
    have hne : directory ≠ [] := by
      obtain ⟨first, others, rfl⟩ := List.exists_cons_of_ne_nil hdirs
      exact List.cons_ne_nil _ _
    rw [hline, List.append_assoc, List.cons_append,
      lastComponent?_append hpath hne hlast (programName?_append hletter (hend (by decide)))]
    rfl
  · have hmark : interpreter? ('#' :: '!' :: start) = (lastComponent? start).map wordFor := by
      have hstart : ∀ c ∈ start.head?, c ≠ ' ' := by
        rintro c hc rfl
        exact absurd (hpath ' ' (List.mem_of_mem_head? hc)) (by decide)
      have hcommand := interpreter?_of_command 0 hstart
      rwa [envArgument?_eq_none_of_path hpath, Option.none_or] at hcommand
    rw [hline, hmark, heq, List.append_assoc, List.append_assoc, List.cons_append,
      lastComponent?_append_cons hc]

/-- Perl by a path with a version and an option, and Ruby in a directory with a digit, which makes
it Python. -/
theorem interpreter?_rooted_instances :
    let perl := "perl5.36".toList
    let line := "#!  /usr/local.d/bin/perl5.36 -w".toList
    let line' := "#!/opt/python3/bin/ruby".toList
    (∀ part ∈ ["usr".toList, "local.d".toList, "bin".toList] ++ [perl], Component part) ∧
      perl ≠ ['e', 'n', 'v'] ∧ (∃ c ∈ perl.head?, isLetter c = true) ∧
      (∀ c ∈ " -w".toList.head?, c = ' ') ∧ interpreter? line = some "pl" ∧
      interpreter? line' = interpreter? "#!/opt/python".toList := by
  intro perl line line'
  have hparts : ∀ part ∈ ["usr".toList, "local.d".toList, "bin".toList] ++ [perl],
      Component part := by decide
  have hparts' : ∀ part ∈ ["opt".toList, "python3".toList, "bin".toList] ++ ["ruby".toList],
      Component part := by decide
  have henv : perl ≠ ['e', 'n', 'v'] := by decide
  have hletter : ∃ c ∈ perl.head?, isLetter c = true := ⟨'p', rfl, rfl⟩
  have hletter' : ∃ c ∈ "ruby".toList.head?, isLetter c = true := ⟨'r', rfl, rfl⟩
  have hrest : ∀ c ∈ " -w".toList.head?, c = ' ' := by
    rintro c ⟨⟩
    rfl
  have hrest' : ∀ c ∈ ([] : List Char).head?, c = ' ' := nofun
  have hperl := (interpreter?_rooted 2 (by decide) hparts henv hletter hrest).1
  have hruby := (interpreter?_rooted 0 (by decide) hparts' (by decide) hletter' hrest').2
  refine ⟨hparts, henv, hletter, hrest, hperl (List.all_eq_true.mp (by decide)), ?_⟩
  have hstart : ∀ c ∈ "/opt/python".toList, isPathChar c = true := List.all_eq_true.mp (by decide)
  exact hruby "/opt/python".toList '3' "/bin".toList (by decide) hstart (by decide)

/-- Ruby in a directory with a digit in its name is taken for Python. -/
theorem interpreter?_in_numbered_directory :
    interpreter? "#!/opt/python3/bin/ruby".toList = some "py" ∧ wordFor "ruby".toList = "rb" := by
  decide

end LineCensus.Shebang
