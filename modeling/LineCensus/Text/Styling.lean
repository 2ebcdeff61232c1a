/-!
# Styled text

A terminal reads an escape character, an opening bracket, numbers and a letter as a change of
style.  Text that does not go to a terminal is written without such changes.
-/

namespace LineCensus.Text

def escapeChar : Char := '\x1b'

/-- What follows the opening bracket of a change of style, after the letter that ends it. -/
def afterStyle? (s : List Char) : Option (List Char) :=
  match s.dropWhile fun c => c.isDigit || c == ';' || c == '?' with
  | c :: rest => if c.isAlpha then some rest else none
  | [] => none

theorem length_afterStyle? {s rest : List Char} (h : afterStyle? s = some rest) :
    rest.length < s.length := by
  have hle : (s.dropWhile fun c => c.isDigit || c == ';' || c == '?').length ≤ s.length :=
    (List.dropWhile_sublist _).length_le
  unfold afterStyle? at h
  split at h
  · rename_i c tail heq
    rw [heq] at hle
    split at h
    · cases h
      simp only [List.length_cons] at hle
      omega
    · contradiction
  · contradiction

/-- The text without changes of style; `found` holds what comes before it, last first. -/
def dropStyles (found : List Char) (s : List Char) : List Char :=
  match s with
  | [] => found.reverse
  | c :: rest =>
    if c = escapeChar then
      match rest with
      | '[' :: inner =>
        match h : afterStyle? inner with
        | some after =>
          have := length_afterStyle? h
          dropStyles found after
        | none => dropStyles (c :: found) ('[' :: inner)
      | rest => dropStyles (c :: found) rest
    else dropStyles (c :: found) rest
termination_by s.length
decreasing_by all_goals simp_all <;> omega

def unstyled (s : String) : String :=
  String.ofList (dropStyles [] s.toList)

end LineCensus.Text
