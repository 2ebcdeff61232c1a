import LineCensus.FileCounter
import LineCensus.Proofs.Line.Session

/-!
# The lines of a content

Reading a file byte by byte gives the pieces of its content between line feeds, as they are or up
to the first one that is too long.  What is counted up to there is what the bytes read so far
would have given alone.
-/

namespace LineCensus.Line

/-- The pieces of a content between line feeds; an empty piece at its end is no line. -/
def physicalLines (content : List UInt8) : List (List UInt8) :=
  let pieces := content.splitOn lineFeed
  if pieces.getLast? = some [] then pieces.dropLast else pieces

def fitting (limit : Nat) (lines : List (List UInt8)) : Nat :=
  lines.findIdx fun line => limit < line.length

/-- The bytes of the first `n` lines, with their line feeds. -/
def leading (n : Nat) : List UInt8 → List UInt8
  | [] => []
  | b :: rest =>
    match n with
    | 0 => []
    | n + 1 => b :: leading (if b = lineFeed then n else n + 1) rest

/-! ## Physical lines -/

@[simp] theorem physicalLines_nil : physicalLines [] = [] := rfl

theorem physicalLines_of_not_mem {line : List UInt8} (hfeed : lineFeed ∉ line) (hne : line ≠ []) :
    physicalLines line = [line] := by
  simp [physicalLines, List.splitOn_eq_singleton hfeed, hne]

@[simp] theorem physicalLines_append_cons {line : List UInt8} (hfeed : lineFeed ∉ line)
    (rest : List UInt8) :
    physicalLines (line ++ lineFeed :: rest) = line :: physicalLines rest := by
  have hpieces := List.splitOn_append_cons_self_of_not_mem hfeed rest
  have hne : rest.splitOn lineFeed ≠ [] := List.splitOn_ne_nil lineFeed rest
  have hlast : (line :: rest.splitOn lineFeed).getLast? = (rest.splitOn lineFeed).getLast? := by
    rw [List.getLast?_cons, List.getLast?_eq_some_getLast hne, Option.getD_some]
  simp only [physicalLines, hpieces, hlast, List.dropLast_cons_of_ne_nil hne]
  split <;> rfl

/-- A content is empty, or a last line without a line feed, or a line with all that follows it. -/
theorem lines_induction {motive : List UInt8 → Prop} (nil : motive [])
    (last : ∀ line, lineFeed ∉ line → line ≠ [] → motive line)
    (line : ∀ line rest, lineFeed ∉ line → motive rest → motive (line ++ lineFeed :: rest))
    (content : List UInt8) : motive content := by
  by_cases hfeed : lineFeed ∈ content
  · obtain ⟨first, rest, heq, hfirst⟩ := List.eq_append_cons_of_mem hfeed
    have hshorter : rest.length < content.length := by
      rw [heq, List.length_append, List.length_cons]
      omega
    rw [heq]
    exact line first rest hfirst (lines_induction nil last line rest)
  · by_cases hne : content = []
    · rwa [hne]
    · exact last content hfeed hne
termination_by content.length

theorem physicalLines_append {start : List UInt8} (hfeed : lineFeed ∉ start) (hne : start ≠ [])
    (content : List UInt8) :
    physicalLines (start ++ content) =
      (start ++ (physicalLines content).headD []) :: (physicalLines content).tail := by
  induction content using lines_induction with
  | nil => rw [List.append_nil, physicalLines_of_not_mem hfeed hne]; simp
  | last line hline hnonempty =>
    rw [physicalLines_of_not_mem hline hnonempty, physicalLines_of_not_mem (by simp [hfeed, hline])
      (by simp [hne])]
    rfl
  | line line rest hline ih =>
    rw [← List.append_assoc, physicalLines_append_cons (by simp [hfeed, hline]),
      physicalLines_append_cons hline]
    rfl

/-! ## The first lines of a content -/

@[simp] theorem leading_zero (content : List UInt8) : leading 0 content = [] := by
  cases content <;> rfl

theorem leading_of_not_mem {line : List UInt8} (hfeed : lineFeed ∉ line) (n : Nat) :
    leading (n + 1) line = line := by
  induction line with
  | nil => rfl
  | cons b rest ih =>
    rw [List.mem_cons, not_or] at hfeed
    rw [leading, if_neg (Ne.symm hfeed.1), ih hfeed.2]

theorem leading_append_cons {line : List UInt8} (hfeed : lineFeed ∉ line) (n : Nat)
    (rest : List UInt8) :
    leading (n + 1) (line ++ lineFeed :: rest) = line ++ lineFeed :: leading n rest := by
  induction line with
  | nil => simp [leading]
  | cons b more ih =>
    rw [List.mem_cons, not_or] at hfeed
    rw [List.cons_append, leading, if_neg (Ne.symm hfeed.1), ih hfeed.2, List.cons_append]

theorem physicalLines_leading (n : Nat) (content : List UInt8) :
    physicalLines (leading n content) = (physicalLines content).take n := by
  induction content using lines_induction generalizing n with
  | nil => simp [leading]
  | last line hfeed hne =>
    cases n with
    | zero => simp
    | succ n => rw [leading_of_not_mem hfeed, physicalLines_of_not_mem hfeed hne,
        List.take_succ_cons, List.take_nil]
  | line line rest hfeed ih =>
    cases n with
    | zero => simp
    | succ n => rw [leading_append_cons hfeed, physicalLines_append_cons hfeed, ih,
        physicalLines_append_cons hfeed, List.take_succ_cons]

/-! ## Reading -/

def Reading.ofLines (limit : Nat) (lines : List (List UInt8)) : Reading where
  lines := lines.take (fitting limit lines)
  error :=
    if ∀ line ∈ lines, line.length ≤ limit then none else some ⟨fitting limit lines + 1, limit⟩

def Reading.after (found : List (List UInt8)) (r : Reading) : Reading where
  lines := found.reverse ++ r.lines
  error := r.error.map fun e => { e with number := found.length + e.number }

@[simp] theorem Reading.after_nil (r : Reading) : r.after [] = r := by
  obtain ⟨lines, error⟩ := r
  cases error <;> simp [after]

theorem fitting_cons_of_le {limit : Nat} {line : List UInt8} (hfits : line.length ≤ limit)
    (lines : List (List UInt8)) : fitting limit (line :: lines) = fitting limit lines + 1 := by
  simp [fitting, List.findIdx_cons, Nat.not_lt.mpr hfits]

theorem fitting_cons_of_lt {limit : Nat} {line : List UInt8} (hlong : limit < line.length)
    (lines : List (List UInt8)) : fitting limit (line :: lines) = 0 := by
  simp [fitting, List.findIdx_cons, hlong]

theorem fitting_le_length (limit : Nat) (lines : List (List UInt8)) :
    fitting limit lines ≤ lines.length :=
  List.findIdx_le_length

theorem fitting_eq_length {limit : Nat} {lines : List (List UInt8)}
    (hfit : ∀ line ∈ lines, line.length ≤ limit) : fitting limit lines = lines.length := by
  apply List.findIdx_eq_length_of_false
  intro line hline
  exact decide_eq_false (Nat.not_lt.mpr (hfit line hline))

theorem Reading.ofLines_eq_of_forall_le {limit : Nat} {lines : List (List UInt8)}
    (hfit : ∀ line ∈ lines, line.length ≤ limit) : ofLines limit lines = ⟨lines, none⟩ := by
  rw [ofLines, if_pos hfit, fitting_eq_length hfit, List.take_length]

theorem Reading.ofLines_nil (limit : Nat) (found : List (List UInt8)) :
    (ofLines limit []).after found = ⟨found.reverse, none⟩ := by
  simp [ofLines, after]

theorem Reading.ofLines_cons {limit : Nat} {line : List UInt8} (hfits : line.length ≤ limit)
    (lines found : List (List UInt8)) :
    (ofLines limit (line :: lines)).after found = (ofLines limit lines).after (line :: found) := by
  have hiff : (∀ l ∈ line :: lines, l.length ≤ limit) ↔ ∀ l ∈ lines, l.length ≤ limit := by
    simp [hfits]
  simp only [ofLines, fitting_cons_of_le hfits, hiff, after, List.take_succ_cons,
    List.reverse_cons, List.append_assoc, List.singleton_append, List.length_cons]
  split
  · rfl
  · simp only [Option.map_some]
    congr 3
    omega

theorem Reading.ofLines_long {limit : Nat} {line : List UInt8} (hlong : limit < line.length)
    (lines found : List (List UInt8)) :
    (ofLines limit (line :: lines)).after found =
      ⟨found.reverse, some ⟨found.length + 1, limit⟩⟩ := by
  have hnot : ¬∀ l ∈ line :: lines, l.length ≤ limit := by
    intro hall
    have hfits := hall line (by simp)
    omega
  rw [ofLines, if_neg hnot, fitting_cons_of_lt hlong, List.take_zero]
  simp [after]

theorem Reading.ofLines_append {limit : Nat} {before : List (List UInt8)}
    (hfits : ∀ line ∈ before, line.length ≤ limit) (lines found : List (List UInt8)) :
    (ofLines limit (before ++ lines)).after found =
      (ofLines limit lines).after (before.reverse ++ found) := by
  induction before generalizing found with
  | nil => rfl
  | cons line rest ih =>
    rw [List.forall_mem_cons] at hfits
    rw [List.cons_append, ofLines_cons hfits.1, ih hfits.2, List.reverse_cons, List.append_assoc,
      List.singleton_append]

theorem Reading.ofLines_of_fits {limit : Nat} {line : List UInt8} (hfits : line.length ≤ limit)
    (lines : List (List UInt8)) :
    ofLines limit (line :: lines) = (ofLines limit lines).after [line] := by
  rw [← after_nil (ofLines limit (line :: lines)), ofLines_cons hfits]

theorem Reading.ofLines_append_long {limit : Nat} {before : List (List UInt8)}
    (hfits : ∀ line ∈ before, line.length ≤ limit) {line : List UInt8} (hlong : limit < line.length)
    (lines : List (List UInt8)) :
    ofLines limit (before ++ line :: lines) = ⟨before, some ⟨before.length + 1, limit⟩⟩ := by
  rw [← after_nil (ofLines limit (before ++ line :: lines)), ofLines_append hfits,
    ofLines_long hlong]
  simp

theorem Reading.ofLines_of_long {limit : Nat} {line : List UInt8} (hlong : limit < line.length)
    (lines : List (List UInt8)) : ofLines limit (line :: lines) = ⟨[], some ⟨1, limit⟩⟩ := by
  have hnone : ∀ line ∈ ([] : List (List UInt8)), line.length ≤ limit := by simp
  exact ofLines_append_long hnone hlong lines

theorem readFrom_lineFeed (limit room : Nat) (found : List (List UInt8)) (line rest : List UInt8) :
    readFrom limit found line room (lineFeed :: rest) =
      readFrom limit (line.reverse :: found) [] limit rest := by
  cases room <;> simp [readFrom]

/-- The line in the making fits as long as there is room left, so the next line feed ends it, and
a byte for which there is no room makes it too long. -/
theorem readFrom_eq {limit room : Nat} {start : List UInt8} (hfeed : lineFeed ∉ start)
    (hroom : start.length + room = limit) (found : List (List UInt8)) (content : List UInt8) :
    readFrom limit found start.reverse room content =
      (Reading.ofLines limit (physicalLines (start ++ content))).after found := by
  induction content generalizing start room found with
  | nil =>
    rw [readFrom, List.append_nil]
    by_cases hstart : start = []
    · rw [hstart, physicalLines_nil, Reading.ofLines_nil]
      rfl
    · rw [physicalLines_of_not_mem hfeed hstart, Reading.ofLines_cons (by omega),
        Reading.ofLines_nil]
      simp [hstart]
  | cons b rest ih =>
    by_cases hb : b = lineFeed
    · subst hb
      have hnext := @ih limit [] (by simp) (by simp) (start :: found)
      rw [readFrom_lineFeed, List.reverse_reverse, physicalLines_append_cons hfeed,
        Reading.ofLines_cons (by omega)]
      exact hnext
    · have hfeed' : lineFeed ∉ start ++ [b] := by simp [Ne.symm hb, hfeed]
      rw [List.append_cons]
      cases room with
      | zero =>
        have hlong : limit < (start ++ [b] ++ (physicalLines rest).headD []).length := by
          simp only [List.length_append, List.length_singleton]
          omega
        rw [physicalLines_append hfeed' (by simp), Reading.ofLines_long hlong]
        simp [readFrom, hb]
      | succ room =>
        have hlength : (start ++ [b]).length + room = limit := by
          rw [List.length_append, List.length_singleton]
          omega
        rw [readFrom, if_neg hb, ← List.reverse_concat]
        exact ih hfeed' hlength found

theorem readFrom_start (limit : Nat) (content : List UInt8) :
    readFrom limit [] [] limit content = Reading.ofLines limit (physicalLines content) := by
  have hread := @readFrom_eq limit limit [] (by simp) (by simp) [] content
  rw [List.reverse_nil, List.nil_append, Reading.after_nil] at hread
  exact hread

/-- Reading gives the physical lines up to the first one that is too long, unless more would be asked
for than can be. -/
theorem read_eq (limit : Nat) (content : List UInt8) :
    read limit content =
      if limit < largestRequest then .ok (Reading.ofLines limit (physicalLines content))
      else .error ⟨limit + 1⟩ := by
  rw [read, readFrom_start]
  rfl

theorem read_of_lt {limit : Nat} (hlimit : limit < largestRequest) (content : List UInt8) :
    read limit content = .ok (Reading.ofLines limit (physicalLines content)) := by
  rw [read_eq, if_pos hlimit]

theorem read_of_le {limit : Nat} (hlimit : largestRequest ≤ limit) (content : List UInt8) :
    read limit content = .error ⟨limit + 1⟩ := by
  rw [read_eq, if_neg (Nat.not_lt.mpr hlimit)]

theorem entryOfContent_of_lt {limit : Nat} (hlimit : limit < largestRequest) (path : String)
    (g : Grammar) (content : List UInt8) :
    entryOfContent path g limit content =
      .ok (entryOf path g (Reading.ofLines limit (physicalLines content))) := by
  rw [entryOfContent, read_of_lt hlimit]
  rfl

/-! ## Counting -/

theorem Counts.total_add (n : Counts) (kind : Kind) : (n.add kind).total = n.total + 1 := by
  cases kind <;> simp only [add, total] <;> omega

theorem Session.total_classifyAll (c : Session) (lines : List (List Char)) :
    (c.classifyAll lines).1.counts.total = c.counts.total + lines.length := by
  induction lines generalizing c with
  | nil => rfl
  | cons line rest ih =>
    have hstep : (c.classify line).1.counts.total = c.counts.total + 1 := Counts.total_add _ _
    rw [classifyAll_cons, ih, hstep, List.length_cons]
    omega

theorem total_count (g : Grammar) (lines : List (List Char)) :
    (count g lines).total = lines.length := by
  rw [count, Session.total_classifyAll]
  exact Nat.zero_add _

/-- Below the largest limits, the entry of a content counts the lines before the first one that is too
long, each of them once, and counts them as if nothing came after them; its error names the line that
follows.  With a larger limit nothing is read. -/
theorem entryOf_read (path : String) (g : Grammar) (limit : Nat) (content : List UInt8) :
    let lines := physicalLines content
    let k := fitting limit lines
    (limit < largestRequest → ∃ e, entryOfContent path g limit content = .ok e ∧
      e.code + e.comment + e.blank = k ∧
      (∀ admitting < largestRequest, (∀ line ∈ lines.take k, line.length ≤ admitting) →
        entryOfContent path g admitting (leading k content) = .ok { e with error := none }) ∧
      e.error = if ∀ line ∈ lines, line.length ≤ limit then none
        else some s!"line {k + 1} exceeds the maximum length of {limit} bytes") ∧
    (largestRequest ≤ limit → entryOfContent path g limit content = .error ⟨limit + 1⟩) := by
  intro lines k
  constructor
  · intro hlimit
    let reading := Reading.ofLines limit lines
    have htexts : reading.texts = (lines.take k).map ofBytes := rfl
    refine ⟨entryOf path g reading, entryOfContent_of_lt hlimit path g content, ?_, ?_, ?_⟩
    · have htotal := total_count g reading.texts
      rw [htexts, List.length_map, List.length_take,
        Nat.min_eq_left (fitting_le_length limit lines)] at htotal
      simp only [entryOf, htexts]
      rw [Counts.total] at htotal
      omega
    · intro admitting hadmitting hadmit
      have hpart : Reading.ofLines admitting (physicalLines (leading k content)) =
          ⟨lines.take k, none⟩ := by
        rw [physicalLines_leading]
        exact Reading.ofLines_eq_of_forall_le hadmit
      rw [entryOfContent_of_lt hadmitting, hpart]
      rfl
    · simp only [entryOf, reading, Reading.ofLines]
      split <;> rfl
  · intro hlimit
    rw [entryOfContent, read_of_le hlimit]
    rfl

/-- A line of just the limit and its carriage return, a blank one, and one that is too long: the
first two are counted, also where the limit leaves room for more. -/
theorem entryOf_read_truncated :
    let content : List UInt8 := [0x61, 0x62, 0x0d, 0x0a, 0x0a, 0x61, 0x62, 0x63, 0x64, 0x0a, 0x61]
    leading 2 content = [0x61, 0x62, 0x0d, 0x0a, 0x0a] ∧
    (∀ line ∈ (physicalLines content).take 2, line.length ≤ 7) ∧
    ∃ e, entryOfContent "a" fallbackGrammar 3 content = .ok e ∧
      (e.code, e.comment, e.blank) = (1, 0, 1) ∧
      e.error = some "line 3 exceeds the maximum length of 3 bytes" ∧
      entryOfContent "a" fallbackGrammar 7 (leading 2 content) = .ok { e with error := none } := by
  intro content
  have hfits : ∀ line ∈ (physicalLines content).take 2, line.length ≤ 7 := by decide
  obtain ⟨e, he, -, hpart, herror⟩ :=
    (entryOf_read "a" fallbackGrammar 3 content).1 (by decide)
  have hcounts : ∀ e, entryOfContent "a" fallbackGrammar 3 content = .ok e →
      (e.code, e.comment, e.blank) = (1, 0, 1) := by
    rintro _ ⟨⟩
    decide
  refine ⟨by decide, hfits, e, he, hcounts e he, ?_, hpart 7 (by decide) hfits⟩
  rw [herror]
  decide

/-- With the largest limits nothing is read, though no line is too long. -/
theorem entryOf_read_largest :
    (∀ line ∈ physicalLines [0x61], line.length ≤ largestRequest) ∧
      ∀ e, entryOfContent "a" fallbackGrammar largestRequest [0x61] ≠ .ok e := by
  exact ⟨by decide, nofun⟩

end LineCensus.Line
