import LineCensus.Proofs.Line.Reading

/-!
# Carriage returns before line feeds

The carriage return before a line feed is no part of a line, but it takes room in it.  So a file in
which line feeds alone end the lines is read the same with a carriage return put in front of each
of them, unless a line takes just the room that there is.
-/

namespace LineCensus.Line

/-- The content with a carriage return in front of each line feed. -/
def withReturns (content : List UInt8) : List UInt8 :=
  content.flatMap fun b => if b = lineFeed then [0x0d, lineFeed] else [b]

def endedLines (content : List UInt8) : List (List UInt8) :=
  (content.splitOn lineFeed).dropLast

/-! ## Lines with a carriage return -/

theorem withReturns_of_not_mem {line : List UInt8} (hfeed : lineFeed ∉ line) :
    withReturns line = line := by
  induction line with
  | nil => rfl
  | cons b rest ih =>
    rw [List.mem_cons, not_or] at hfeed
    rw [withReturns, List.flatMap_cons, if_neg (Ne.symm hfeed.1), ← withReturns, ih hfeed.2]
    rfl

theorem withReturns_append_cons {line : List UInt8} (hfeed : lineFeed ∉ line)
    (rest : List UInt8) :
    withReturns (line ++ lineFeed :: rest) = line ++ [0x0d] ++ lineFeed :: withReturns rest := by
  rw [withReturns, List.flatMap_append, List.flatMap_cons, ← withReturns, ← withReturns,
    withReturns_of_not_mem hfeed, if_pos rfl, List.append_assoc]
  rfl

@[simp] theorem endedLines_of_not_mem {line : List UInt8} (hfeed : lineFeed ∉ line) :
    endedLines line = [] := by
  rw [endedLines, List.splitOn_eq_singleton hfeed]
  rfl

@[simp] theorem endedLines_append_cons {line : List UInt8} (hfeed : lineFeed ∉ line)
    (rest : List UInt8) :
    endedLines (line ++ lineFeed :: rest) = line :: endedLines rest := by
  rw [endedLines, List.splitOn_append_cons_self_of_not_mem hfeed,
    List.dropLast_cons_of_ne_nil (List.splitOn_ne_nil lineFeed rest)]
  rfl

theorem mem_of_mem_endedLines {content line : List UInt8} (hline : line ∈ endedLines content)
    {b : UInt8} (hb : b ∈ line) : b ∈ content := by
  induction content using lines_induction with
  | nil => cases hline
  | last last hfeed _ => simp [hfeed] at hline
  | line first rest hfeed ih =>
    rw [endedLines_append_cons hfeed, List.mem_cons] at hline
    rcases hline with rfl | hline
    · exact List.mem_append_left _ hb
    · exact List.mem_append_right _ (List.mem_cons_of_mem _ (ih hline))

theorem exists_physicalLines_withReturns (content : List UInt8) :
    ∃ last, physicalLines content = endedLines content ++ last ∧
      physicalLines (withReturns content) = (endedLines content).map (· ++ [0x0d]) ++ last := by
  induction content using lines_induction with
  | nil => exact ⟨[], rfl, rfl⟩
  | last line hfeed hne =>
    refine ⟨[line], ?_, ?_⟩
    · rw [endedLines_of_not_mem hfeed, physicalLines_of_not_mem hfeed hne]
      rfl
    · rw [endedLines_of_not_mem hfeed, withReturns_of_not_mem hfeed,
        physicalLines_of_not_mem hfeed hne]
      rfl
  | line line rest hfeed ih =>
    obtain ⟨last, hlines, hlines'⟩ := ih
    have hfeed' : lineFeed ∉ line ++ [0x0d] := by
      rw [List.mem_append, not_or]
      exact ⟨hfeed, by decide⟩
    refine ⟨last, ?_, ?_⟩
    · rw [endedLines_append_cons hfeed, physicalLines_append_cons hfeed, hlines]
      rfl
    · rw [endedLines_append_cons hfeed, withReturns_append_cons hfeed,
        physicalLines_append_cons hfeed', hlines']
      rfl

theorem ofBytes_concat_return {line : List UInt8} (hreturn : 0x0d ∉ line) :
    ofBytes (line ++ [0x0d]) = ofBytes line := by
  have hline : dropReturn line = line := if_neg fun hlast => hreturn (List.mem_of_getLast? hlast)
  rw [ofBytes, ofBytes, hline, dropReturn, if_pos List.getLast?_concat, List.dropLast_concat]

/-! ## Reading with carriage returns -/

/-- As long as there is room for the carriage returns, they make no difference. -/
theorem Reading.ofLines_withReturns {limit : Nat} {ended : List (List UInt8)}
    (hreturn : ∀ line ∈ ended, 0x0d ∉ line) (last : List (List UInt8))
    (hroom : ∀ line ∈ ended.take (ofLines limit (ended ++ last)).lines.length,
      line.length ≠ limit) :
    (ofLines limit (ended.map (· ++ [0x0d]) ++ last)).texts =
        (ofLines limit (ended ++ last)).texts ∧
      (ofLines limit (ended.map (· ++ [0x0d]) ++ last)).error =
        (ofLines limit (ended ++ last)).error := by
  induction ended with
  | nil => exact ⟨rfl, rfl⟩
  | cons line rest ih =>
    rw [List.forall_mem_cons] at hreturn
    rw [List.cons_append] at hroom
    rw [List.map_cons, List.cons_append, List.cons_append]
    by_cases hfits : line.length ≤ limit
    · rw [ofLines_of_fits hfits] at hroom ⊢
      simp only [after, List.reverse_singleton, List.singleton_append, List.length_cons,
        List.take_succ_cons, List.forall_mem_cons] at hroom
      have hfits' : (line ++ [0x0d]).length ≤ limit := by
        rw [List.length_append, List.length_singleton]
        omega
      obtain ⟨htexts, herror⟩ := ih hreturn.2 hroom.2
      rw [ofLines_of_fits hfits']
      rw [texts, texts] at htexts ⊢
      simp [after, htexts, herror, ofBytes_concat_return hreturn.1]
    · have hlong := Nat.lt_of_not_le hfits
      have hlong' : limit < (line ++ [0x0d]).length := by
        rw [List.length_append]
        omega
      rw [ofLines_of_long hlong, ofLines_of_long hlong']
      exact ⟨rfl, rfl⟩

/-- In a file without carriage returns, one in front of each line feed makes no difference to the
lines that are read, to the error, and to the entry, unless a line that is read and ended by a line
feed has just as many bytes as the limit.  At the first such line the file with carriage returns is
given up.  With a limit so large that nothing can be read, neither file is. -/
theorem read_withReturns {content : List UInt8} (hreturn : 0x0d ∉ content) (limit : Nat) :
    (limit < largestRequest → ∃ r r', read limit content = .ok r ∧
      read limit (withReturns content) = .ok r' ∧
      ((∀ line ∈ (endedLines content).take r.lines.length, line.length ≠ limit) →
        r'.texts = r.texts ∧ r'.error = r.error ∧
          ∀ path g, entryOf path g r' = entryOf path g r) ∧
      ∀ before full after, endedLines content = before ++ full :: after →
        (∀ line ∈ before, line.length < limit) → full.length = limit →
        r.lines.take (before.length + 1) = before ++ [full] ∧
          r'.texts = before.map ofBytes ∧ r'.error = some ⟨before.length + 1, limit⟩) ∧
    (largestRequest ≤ limit →
      read limit content = .error ⟨limit + 1⟩ ∧
        read limit (withReturns content) = .error ⟨limit + 1⟩) := by
  refine ⟨fun hlimit => ?_, fun hlimit => ⟨read_of_le hlimit _, read_of_le hlimit _⟩⟩
  obtain ⟨last, hlines, hlines'⟩ := exists_physicalLines_withReturns content
  refine ⟨_, _, read_of_lt hlimit _, read_of_lt hlimit _, ?_⟩
  rw [hlines, hlines']
  have hended : ∀ line ∈ endedLines content, 0x0d ∉ line :=
    fun line hline hmem => hreturn (mem_of_mem_endedLines hline hmem)
  refine ⟨fun hroom => ?_, fun before full after heq hshort hfull => ?_⟩
  · obtain ⟨htexts, herror⟩ := Reading.ofLines_withReturns hended last hroom
    exact ⟨htexts, herror, fun path g => by simp only [entryOf, htexts, herror]⟩
  · have hfits : ∀ line ∈ before ++ [full], line.length ≤ limit := by
      intro line hline
      rcases List.mem_append.mp hline with hline | hline
      · exact Nat.le_of_lt (hshort line hline)
      · rw [List.mem_singleton.mp hline]
        exact Nat.le_of_eq hfull
    have hfits' : ∀ line ∈ before.map (· ++ [0x0d]), line.length ≤ limit := by
      intro line hline
      obtain ⟨line, hmem, rfl⟩ := List.mem_map.mp hline
      rw [List.length_append, List.length_singleton]
      exact hshort line hmem
    have hlong : limit < (full ++ [0x0d]).length := by
      rw [List.length_append, hfull]
      exact Nat.lt_succ_self limit
    have hr : Reading.ofLines limit (endedLines content ++ last) =
        (Reading.ofLines limit (after ++ last)).after (before ++ [full]).reverse := by
      rw [heq, List.append_assoc, List.cons_append, List.append_cons,
        ← Reading.after_nil (Reading.ofLines _ _), Reading.ofLines_append hfits, List.append_nil]
    have hr' : Reading.ofLines limit ((endedLines content).map (· ++ [0x0d]) ++ last) =
        ⟨before.map (· ++ [0x0d]), some ⟨(before.map (· ++ [0x0d])).length + 1, limit⟩⟩ := by
      rw [heq, List.map_append, List.map_cons, List.append_assoc, List.cons_append,
        Reading.ofLines_append_long hfits' hlong]
    rw [hr, hr']
    refine ⟨?_, ?_, ?_⟩
    · rw [Reading.after, List.reverse_reverse]
      exact List.take_left' (by simp)
    · rw [Reading.texts, List.map_map]
      apply List.map_congr_left
      intro line hline
      apply ofBytes_concat_return
      exact hended line (heq ▸ List.mem_append_left _ hline)
    · rw [List.length_map]

/-- A line that is too long for one limit in either form, just fits without a carriage return, and
fits in either form: with three limits, the last line being read as it is. -/
theorem read_withReturns_three_limits :
    let content : List UInt8 := [0x61, 0x0a, 0x61, 0x62, 0x63, 0x0a, 0x64, 0x65, 0x66]
    0x0d ∉ content ∧
      (∃ r r', read 2 content = .ok r ∧ read 2 (withReturns content) = .ok r' ∧
        r'.texts = r.texts ∧ r'.error = r.error) ∧
      (∃ r, read 3 (withReturns content) = .ok r ∧ r.texts = [['a']] ∧ r.error = some ⟨2, 3⟩) ∧
      ∃ r r', read 4 content = .ok r ∧ read 4 (withReturns content) = .ok r' ∧
        entryOf "f" fallbackGrammar r' = entryOf "f" fallbackGrammar r := by
  intro content
  have hreturn : 0x0d ∉ content := by decide
  refine ⟨hreturn, ?_, ?_, ?_⟩
  · obtain ⟨r, r', hr, hr', hsame, -⟩ := (read_withReturns hreturn 2).1 (by decide)
    have hroom : ∀ line ∈ (endedLines content).take r.lines.length, line.length ≠ 2 := by
      cases hr
      decide
    obtain ⟨htexts, herror, -⟩ := hsame hroom
    exact ⟨r, r', hr, hr', htexts, herror⟩
  · obtain ⟨_, r', -, hr', -, hlong⟩ := (read_withReturns hreturn 3).1 (by decide)
    obtain ⟨-, htexts, herror⟩ :=
      hlong [[0x61]] [0x61, 0x62, 0x63] [] (by decide) (by decide) (by decide)
    refine ⟨r', hr', ?_, herror⟩
    rw [htexts]
    decide
  · obtain ⟨r, r', hr, hr', hsame, -⟩ := (read_withReturns hreturn 4).1 (by decide)
    have hroom : ∀ line ∈ (endedLines content).take r.lines.length, line.length ≠ 4 := by
      cases hr
      decide
    exact ⟨r, r', hr, hr', (hsame hroom).2.2 "f" fallbackGrammar⟩

/-- A line of just the limit is read if a line feed ends it, and is too long with a carriage return
in front of the line feed. -/
theorem read_withReturns_at_limit :
    let content : List UInt8 := [0x61, 0x62, 0x63, 0x0a]
    0x0d ∉ content ∧
      (read 3 content).map (fun r => (r.texts, r.error)) = .ok ([['a', 'b', 'c']], none) ∧
      (read 3 (withReturns content)).map (fun r => (r.texts, r.error)) = .ok ([], some ⟨1, 3⟩) ∧
      entryOfContent "f" fallbackGrammar 3 (withReturns content) ≠
        entryOfContent "f" fallbackGrammar 3 content := by
  decide

end LineCensus.Line
