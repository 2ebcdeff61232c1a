import LineCensus.Proofs.Line.Reading
import LineCensus.Proofs.Line.Shortcuts
import LineCensus.Proofs.Text.Utf8

/-!
# The byte order mark

A byte order mark in front of a file is no part of its first line: all lines are called the same
without it, and the same comments are open after each of them.
-/

namespace LineCensus.Line

def markBytes : List UInt8 :=
  [0xef, 0xbb, 0xbf]

theorem dropReturn_append {start : List UInt8} (h : start.getLast? ≠ some 0x0d)
    (line : List UInt8) : dropReturn (start ++ line) = start ++ dropReturn line := by
  by_cases hline : line = []
  · simp [hline, dropReturn, h]
  · have hlast : (start ++ line).getLast? = line.getLast? := by
      rw [List.getLast?_append, List.getLast?_eq_some_getLast hline, Option.some_or]
    rw [dropReturn, dropReturn, hlast, List.dropLast_append_of_ne_nil hline]
    split <;> rfl

theorem ofBytes_markBytes_append (line : List UInt8) :
    ofBytes (markBytes ++ line) = byteOrderMark :: ofBytes line := by
  have hread : markBytes.foldl Text.Utf8.State.push {} = ⟨[.char byteOrderMark], none⟩ := rfl
  rw [ofBytes, dropReturn_append (by decide), Text.Utf8.decodeReplacing,
    Text.Utf8.pieces_append hread]
  rfl

section Marked

variable {first : List Char} (hvisible : Text.trim first ≠ [])
  (hnames : ¬['#', '!'] <+: Text.trim first) (hmark : ¬[byteOrderMark] <+: Text.trim first)

include hvisible hnames hmark

/-- What the rules see of the first line is the same with a byte order mark in front of it. -/
theorem Context.classify_marked (g : Grammar) :
    Context.classify g {} (byteOrderMark :: first) = Context.classify g {} first := by
  have htrim : Text.trim (byteOrderMark :: first) = byteOrderMark :: Text.trimEnd first :=
    Text.trim_cons_of_visible (by decide) first
  have hbody : Context.body {} (byteOrderMark :: first) = Context.body {} first := by
    rw [body_of_unmarked {} hmark, ← Text.trimStart_trimEnd]
    simp [Context.body, htrim]
  apply (Context.Sound.start g).classify_eq_of_body hvisible
  · simp [htrim]
  · exact fun h => hnames h.2
  · rintro ⟨-, h⟩
    rw [htrim, List.cons_prefix_cons] at h
    exact absurd h.1 (by decide)
  · exact hbody

theorem Session.classifyAll_marked (g : Grammar) (rest : List (List Char)) :
    Session.classifyAll { grammar := g } ((byteOrderMark :: first) :: rest) =
      Session.classifyAll { grammar := g } (first :: rest) := by
  have hfirst : Session.classify { grammar := g } (byteOrderMark :: first) =
      Session.classify { grammar := g } first := by
    simp only [Session.classify, Context.classify_marked hvisible hnames hmark]
  rw [Session.classifyAll_cons, Session.classifyAll_cons, hfirst]

/-- A byte order mark in front of the first line makes no difference if that line can be seen and
neither names an interpreter nor has a byte order mark itself.  Whatever lines follow, each is called
the same and leaves the same comments open; and a content gives the same entry with the bytes of
the mark in front, if its first line still fits. -/
theorem entryOf_marked (g : Grammar) :
    (∀ rest, Session.classifyAll { grammar := g } ((byteOrderMark :: first) :: rest) =
      Session.classifyAll { grammar := g } (first :: rest)) ∧
    ∀ (path : String) (limit : Nat) (content line : List UInt8) (later : List (List UInt8)),
      physicalLines content = line :: later → ofBytes line = first →
      (markBytes ++ line).length ≤ limit →
      entryOfContent path g limit (markBytes ++ content) = entryOfContent path g limit content := by
  refine ⟨Session.classifyAll_marked hvisible hnames hmark g, ?_⟩
  intro path limit content line later hlines hfirst hfits
  have hmarked : physicalLines (markBytes ++ content) = (markBytes ++ line) :: later := by
    rw [physicalLines_append (by decide) (by decide), hlines]
    rfl
  have hline : line.length ≤ limit := by
    rw [List.length_append] at hfits
    omega
  rw [entryOfContent, entryOfContent, read_eq, read_eq, hmarked, hlines,
    Reading.ofLines_of_fits hfits, Reading.ofLines_of_fits hline]
  have hcount : ∀ rest, count g ((byteOrderMark :: first) :: rest) = count g (first :: rest) := by
    intro rest
    rw [count, count, Session.classifyAll_marked hvisible hnames hmark]
  split
  · simp [Except.map, entryOf, Reading.after, Reading.texts, ofBytes_markBytes_append, hfirst, hcount]
  · rfl

end Marked

/-- A comment in the first line, with white space around it, that just fits with the mark. -/
theorem entryOf_marked_comment :
    let g : Grammar :=
      { name := "A", lineMarkers := [['#']], blocks := [⟨['"', '"'], ['"', '"']⟩] }
    let first := [' ', '#', '\t']
    let line : List UInt8 := [0x20, 0x23, 0x09, 0x0d]
    let content : List UInt8 := line ++ [0x0a, 0x62]
    Text.trim first ≠ [] ∧ ¬['#', '!'] <+: Text.trim first ∧
      ¬[byteOrderMark] <+: Text.trim first ∧
      physicalLines content = [line, [0x62]] ∧ ofBytes line = first ∧
      (markBytes ++ line).length ≤ 7 ∧
      (Session.classifyAll { grammar := g } [byteOrderMark :: first, ['b', '"', '"']]).2 =
        [.comment, .code] ∧
      (entryOfContent "a" g 7 (markBytes ++ content)).map
        (fun e => (e.code, e.comment, e.blank, e.error)) = .ok (1, 1, 0, none) := by
  intro g first line content
  have hvisible : Text.trim first ≠ [] := by decide
  have hnames : ¬['#', '!'] <+: Text.trim first := by decide
  have hmark : ¬[byteOrderMark] <+: Text.trim first := by decide
  have hlines : physicalLines content = [line, [0x62]] := by decide
  have hfirst : ofBytes line = first := by decide
  obtain ⟨hkinds, hentry⟩ := entryOf_marked hvisible hnames hmark g
  refine ⟨hvisible, hnames, hmark, hlines, hfirst, by decide, ?_, ?_⟩
  · rw [hkinds]
    decide
  · rw [hentry "a" 7 content line _ hlines hfirst (by decide)]
    decide

end LineCensus.Line
