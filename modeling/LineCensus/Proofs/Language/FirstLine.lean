import LineCensus.Detector
import LineCensus.Proofs.Files.Lookup
import LineCensus.Proofs.Text.Utf8

/-!
# First lines

Of a file the first line is read with the line feed that ends it; of bytes at hand it is cut without
that.  The line feed decides nothing: neither how the bytes are read, nor whether the line is long
enough, nor which program it names.  So a file is of the same language whether it is read or its
content is given.
-/

namespace LineCensus

/-! ## A character at the end that belongs to no run -/

namespace Text

variable {p : Char → Bool} {c : Char}

theorem takeWhile_append_of_stop {rest : List Char} (hrest : ∀ c ∈ rest.head?, p c = false)
    (s : List Char) : (s ++ rest).takeWhile p = s.takeWhile p := by
  have hnone : rest.takeWhile p = [] := by
    cases rest with
    | nil => rfl
    | cons c more => exact List.takeWhile_cons_of_neg (by simp [hrest c rfl])
  rw [List.takeWhile_append, hnone, List.append_nil]
  split
  · next hall => exact ((List.takeWhile_prefix p).eq_of_length hall).symm
  · rfl

theorem takeWhile_concat (hc : p c = false) (s : List Char) :
    (s ++ [c]).takeWhile p = s.takeWhile p :=
  takeWhile_append_of_stop (by simpa using hc) s

theorem dropWhile_concat (hc : p c = false) (s : List Char) :
    (s ++ [c]).dropWhile p = s.dropWhile p ++ [c] := by
  have hall : [c].dropWhile p = [c] := List.dropWhile_cons_of_neg (Bool.not_eq_true _ ▸ hc)
  rw [List.dropWhile_append, hall]
  split
  · next hempty => rw [List.isEmpty_iff.mp hempty, List.nil_append]
  · rfl

/-- A line feed stays behind a text, and is dropped with what is blank. -/
theorem trimStart_concat_lineFeed (s : List Char) :
    trimStart (s ++ ['\n']) = if trimStart s = [] then [] else trimStart s ++ ['\n'] := by
  have hblank : ['\n'].dropWhile isBlank = [] := by decide
  rw [trimStart, trimStart, List.dropWhile_append, hblank]
  simp only [List.isEmpty_iff]

end Text

/-! ## Interpreters -/

namespace Shebang

theorem programName?_concat (s : List Char) : programName? (s ++ ['\n']) = programName? s := by
  rw [programName?, Text.takeWhile_concat (by decide), ← programName?]

theorem envArgument?_concat (command : List Char) :
    envArgument? (command ++ ['\n']) = envArgument? command := by
  have hpath : (command ++ ['\n']).takeWhile (!Text.isBlank ·) =
      command.takeWhile (!Text.isBlank ·) := Text.takeWhile_concat (by decide) command
  have hle := (List.takeWhile_prefix (!Text.isBlank ·) (l := command)).length_le
  unfold envArgument?
  rw [hpath]
  dsimp only
  rw [List.drop_append_of_le_length hle]
  -- what follows the path: nothing, a space and a program, or something else
  split
  · cases command.drop (command.takeWhile (!Text.isBlank ·)).length with
    | nil => rfl
    | cons c rest =>
      by_cases hspace : c = ' '
      · subst hspace
        exact programName?_concat rest
      · simp [hspace]
  · rfl

theorem lastComponent?_concat (command : List Char) :
    lastComponent? (command ++ ['\n']) = lastComponent? command := by
  rw [lastComponent?, Text.takeWhile_concat (by decide), ← lastComponent?]

theorem interpreter?_eq_none {line : List Char} (h : ∀ rest, line ≠ '#' :: '!' :: rest) :
    interpreter? line = none := by
  unfold interpreter?
  split
  · next rest => exact absurd rfl (h rest)
  · rfl

theorem interpreter?_concat (line : List Char) :
    interpreter? (line ++ ['\n']) = interpreter? line := by
  by_cases hmark : ∃ rest, line = '#' :: '!' :: rest
  · obtain ⟨rest, rfl⟩ := hmark
    have hcommand : (rest ++ ['\n']).dropWhile (· == ' ') =
        rest.dropWhile (· == ' ') ++ ['\n'] := Text.dropWhile_concat (by decide) rest
    simp only [List.cons_append, interpreter?]
    rw [hcommand, envArgument?_concat, lastComponent?_concat]
  · have hline : ∀ rest, line ≠ '#' :: '!' :: rest := not_exists.mp hmark
    rw [interpreter?_eq_none hline, interpreter?_eq_none]
    -- a mark in the longer line would be one in the line itself
    intro rest heq
    match line, heq with
    | [], heq => simp at heq
    | [c], heq => simp at heq
    | c :: d :: more, heq =>
      injection heq with hc heq
      injection heq with hd _
      exact hline more (by rw [hc, hd])

theorem interpreter?_of_length_le {line : List Char} (h : line.length ≤ 2) :
    interpreter? line = none := by
  by_cases hmark : ∃ rest, line = '#' :: '!' :: rest
  · obtain ⟨rest, rfl⟩ := hmark
    have hrest : rest = [] := List.length_eq_zero_iff.mp (by simpa using h)
    rw [hrest]
    decide
  · exact interpreter?_eq_none (not_exists.mp hmark)

end Shebang

namespace Detector

/-! ## The two ways to come by a first line -/

theorem interpreterWord?_eq (line : List UInt8) :
    interpreterWord? line =
      Shebang.interpreter? (Text.trimStart (Text.Utf8.decodeDropping line)) := by
  rw [interpreterWord?]
  split
  · rfl
  · next hshort => exact (Shebang.interpreter?_of_length_le (Nat.not_lt.mp hshort)).symm

theorem interpreterWord?_concat (line : List UInt8) :
    interpreterWord? (line ++ [0x0a]) = interpreterWord? line := by
  have htext := Text.Utf8.decodeDropping_append_cons line (b := 0x0a) (by decide) []
  have hfeed : Char.ofNat (0x0a : UInt8).toNat :: Text.Utf8.decodeDropping [] = ['\n'] := by decide
  rw [interpreterWord?_eq, interpreterWord?_eq, htext, hfeed, Text.trimStart_concat_lineFeed]
  split
  · next hblank => rw [hblank]
  · exact Shebang.interpreter?_concat _

theorem headLine_eq (content : List UInt8) :
    FileTree.headLine content = cutLine content ∨
      FileTree.headLine content = cutLine content ++ [0x0a] := by
  rw [FileTree.headLine, ← cutLine]
  cases hrest : content.dropWhile (· != 0x0a) with
  | nil => exact .inl (List.append_nil _)
  | cons b after =>
    have hhead := List.head?_dropWhile_not (· != 0x0a) content
    rw [hrest] at hhead
    rw [bne_eq_false_iff_eq.mp hhead]
    exact .inr rfl

theorem interpreterLanguage?_headLine (r : Detector) (content : List UInt8) :
    r.interpreterLanguage? (FileTree.headLine content) =
      r.interpreterLanguage? (cutLine content) := by
  rw [interpreterLanguage?, interpreterLanguage?]
  obtain hline | hline := headLine_eq content
  · rw [hline]
  · rw [hline, interpreterWord?_concat]

/-- The line feed matters to no judge either, since a judge is shown the whole content. -/
theorem languageOf_headLine (r : Detector) (p : Path) (content : List UInt8) :
    r.languageOf p (some content) (some (FileTree.headLine content)) =
      r.languageOf p (some content) := by
  rw [languageOf, languageOf]
  cases r.placement p with
  | settled language => rfl
  | shared ext candidates => rfl
  | unlisted ext =>
    dsimp only [Option.map_some, Option.bind_some]
    rw [interpreterLanguage?_headLine]

theorem detect_none_of_read (r : Detector) {t : FileTree} {p : Path} {content : List UInt8}
    (hread : t.read p = .ok content) : r.detect t p none = r.detect t p (some content) := by
  have hline : (t.readLine p).toOption = some (FileTree.headLine content) := by
    rw [FileTree.readLine, hread]
    rfl
  have hlanguage : r.languageOf p (t.read p).toOption (t.readLine p).toOption =
      r.languageOf p (some content) := by
    rw [hline, hread]
    exact languageOf_headLine r p content
  exact congrArg (· >>= r.checked) hlanguage

/-- A file is of the same language whether it is read or its content is given, and a first line
stands for the same language with the line feed that ends it and without it. -/
theorem detect_of_read (r : Detector) :
    (∀ (t : FileTree) (p : Path) (content : List UInt8), t.read p = .ok content →
      r.detect t p none = r.detect t p (some content)) ∧
    ∀ content, r.interpreterLanguage? (FileTree.headLine content) =
      r.interpreterLanguage? (cutLine content) :=
  ⟨fun _ _ _ hread => r.detect_none_of_read hread, r.interpreterLanguage?_headLine⟩

/-- A script in a damaged file: bytes of no character stand before the mark, and right before the
line feed. -/
theorem detect_of_read_damaged :
    let content := 0xc3 :: Text.Utf8.encode " #!/usr/bin/env python3".toList ++ [0xe2, 0x0a, 0x78]
    let t : FileTree := { root := [("run", .file content)] }
    let d : Detector := {}
    t.read (.ofString "run") = .ok content ∧
      d.detect t (.ofString "run") none = d.detect t (.ofString "run") (some content) ∧
      d.detect t (.ofString "run") (some content) = .ok (.text "Python") := by
  intro content t d
  have hread : t.read (.ofString "run") = .ok content :=
    FileTree.read_of_entry "run" rfl (by decide) rfl
  have hlanguage : d.detect t (.ofString "run") (some content) = .ok (.text "Python") := by
    decide
  exact ⟨hread, d.detect_of_read.1 t _ content hread, hlanguage⟩

end Detector

end LineCensus
