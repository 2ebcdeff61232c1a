import LineCensus.Proofs.Line.Reading
import LineCensus.Proofs.Text.Ascii

/-!
# The lines of the whole text

The bytes of a file are cut into lines before they are read as text, and tokens are counted in the
text of the whole file.  It makes no difference: the text of the whole file, cut at its line feeds,
gives the same lines, also where a line feed or the end of the file breaks off a character.
-/

namespace LineCensus

namespace Line

def withoutReturn (line : List Char) : List Char :=
  if line.getLast? = some '\r' then line.dropLast else line

/-- The lines of a text: what stands between its line feeds, without the carriage return before
each of them; an empty piece at the end is no line. -/
def linesOf (text : List Char) : List (List Char) :=
  let pieces := text.splitOn '\n'
  (if pieces.getLast? = some [] then pieces.dropLast else pieces).map withoutReturn

theorem ofBytes_eq_withoutReturn (line : List UInt8) :
    ofBytes line = withoutReturn (Text.Utf8.decodeReplacing line) := by
  have hiff := Text.Utf8.getLast?_decodeReplacing_iff (b := 0x0d) (by decide) line
  have hreturn : Char.ofNat (0x0d : UInt8).toNat = '\r' := rfl
  rw [hreturn] at hiff
  simp only [ofBytes, dropReturn, withoutReturn, hiff]
  split
  · next hlast =>
    obtain ⟨before, rfl⟩ := List.getLast?_eq_some_iff.mp hlast
    rw [Text.Utf8.decodeReplacing_append_cons before (by decide)]
    exact (congrArg Text.Utf8.decodeReplacing List.dropLast_concat).trans
      List.dropLast_concat.symm
  · rfl

theorem linesOf_decodeReplacing (content : List UInt8) :
    linesOf (Text.Utf8.decodeReplacing content) = (physicalLines content).map ofBytes := by
  have hpieces := Text.Utf8.splitOn_decodeReplacing (b := lineFeed) (by decide) content
  have hfeed : Char.ofNat lineFeed.toNat = '\n' := rfl
  have hlast : (content.splitOn lineFeed).getLast?.map Text.Utf8.decodeReplacing = some [] ↔
      (content.splitOn lineFeed).getLast? = some [] := by simp
  rw [hfeed] at hpieces
  simp only [linesOf, physicalLines, hpieces, List.getLast?_map, hlast, ← List.map_dropLast,
    ← apply_ite (List.map Text.Utf8.decodeReplacing), List.map_map]
  congr 1
  funext line
  exact (ofBytes_eq_withoutReturn line).symm

end Line

/-- If no line of a file is too long, and the limit is not one of the largest, the lines that are
classified are those of the text in which the tokens are counted, which is the whole content.  With a
larger limit there are no lines. -/
theorem FileCounter.entryFor_of_fitting (c : FileCounter) (p : Path) (g : Grammar)
    {content : List UInt8}
    (hfit : ∀ line ∈ Line.physicalLines content, line.length ≤ c.lineLimit) :
    let text := Text.Utf8.decodeReplacing content
    let counts := Line.count g (Line.linesOf text)
    (c.lineLimit < Line.largestRequest → ∃ reading e,
      Line.read c.lineLimit content = .ok reading ∧ c.entryFor p g content = .ok e ∧
      reading.texts = Line.linesOf text ∧ reading.error = none ∧
      e.code = counts.code ∧ e.comment = counts.comment ∧ e.blank = counts.blank ∧
      e.tokens = if c.countTokens ∧ text ≠ [] then c.encoder text else 0) ∧
    (Line.largestRequest ≤ c.lineLimit →
      Line.read c.lineLimit content = .error ⟨c.lineLimit + 1⟩ ∧
        c.entryFor p g content = .error ⟨c.lineLimit + 1⟩) := by
  intro text counts
  constructor
  · intro hlimit
    have hreading : Line.read c.lineLimit content = .ok ⟨Line.physicalLines content, none⟩ := by
      rw [Line.read_of_lt hlimit, Line.Reading.ofLines_eq_of_forall_le hfit]
    have htexts : (Line.physicalLines content).map Line.ofBytes = Line.linesOf text :=
      (Line.linesOf_decodeReplacing content).symm
    have hentry : c.entryFor p g content =
        .ok { path := p.text, language := g.name, code := counts.code, comment := counts.comment
              blank := counts.blank, tokens := c.tokensIn content
              contentHash := some (Digest.hex (Digest.sha256 content)) } := by
      rw [entryFor, entryOfContent, hreading]
      simp only [Except.map, entryOf, Line.Reading.texts, htexts, Option.map_none, counts]
    refine ⟨_, _, hreading, hentry, htexts, rfl, rfl, rfl, rfl, ?_⟩
    simp [tokensIn, text]
  · intro hlimit
    have hreading := Line.read_of_le hlimit content
    refine ⟨hreading, ?_⟩
    rw [entryFor, entryOfContent, hreading]
    rfl

/-- A file in which a line feed breaks off one character and the end of the file another, and which
has a carriage return within a line, before a line feed, and at its end. -/
theorem FileCounter.entryFor_of_fitting_broken :
    let c : FileCounter := { countTokens := true, encoder := List.length, lineLimit := 4 }
    let content : List UInt8 := [0x61, 0x0d, 0xe2, 0x82, 0x0a, 0x0d, 0x0a, 0xf0, 0x9f, 0x0d]
    (∀ line ∈ Line.physicalLines content, line.length ≤ c.lineLimit) ∧
      c.lineLimit < Line.largestRequest ∧ ∃ reading e,
        Line.read c.lineLimit content = .ok reading ∧
        c.entryFor {} fallbackGrammar content = .ok e ∧
        reading.texts = [['a', '\r', '\ufffd'], [], ['\ufffd']] ∧ reading.error = none ∧
        (e.code, e.comment, e.blank) = (2, 0, 1) ∧ e.tokens = 8 := by
  intro c content
  have hfit : ∀ line ∈ Line.physicalLines content, line.length ≤ c.lineLimit := by decide
  have hlines : Line.linesOf (Text.Utf8.decodeReplacing content) =
      [['a', '\r', '\ufffd'], [], ['\ufffd']] := by decide
  obtain ⟨reading, e, hreading, hentry, htexts, herror, hcode, hcomment, hblank, htokens⟩ :=
    (c.entryFor_of_fitting {} fallbackGrammar hfit).1 (by decide)
  rw [hlines] at htexts hcode hcomment hblank
  refine ⟨hfit, by decide, reading, e, hreading, hentry, htexts, herror, ?_, ?_⟩
  · rw [hcode, hcomment, hblank]
    decide
  · rw [htokens]
    decide

/-- With the largest limits there are no lines, though none is too long. -/
theorem FileCounter.entryFor_largest :
    let c : FileCounter := { encoder := List.length, lineLimit := Line.largestRequest }
    (∀ line ∈ Line.physicalLines [0x61], line.length ≤ c.lineLimit) ∧
      Line.linesOf (Text.Utf8.decodeReplacing [0x61]) = [['a']] ∧
      (Line.read c.lineLimit [0x61]).map Line.Reading.texts ≠ .ok [['a']] := by
  intro c
  exact ⟨by decide, by decide, nofun⟩

end LineCensus
