import LineCensus.Text.CaseTable

/-!
# Lower case

The lower-case form of a character and of a text, and comparison without regard to case.
Two rules look at more than one character: a capital I with a dot above becomes two characters,
and a capital sigma takes its final form at the end of a word.
-/

namespace LineCensus.Text

def CaseRun.image? (run : CaseRun) (n : Nat) : Option Nat :=
  if run.first ≤ n && n ≤ run.last && (n - run.first) % run.step == 0 then
    some (run.target + (n - run.first))
  else none

def CaseRun.preimage? (run : CaseRun) (n : Nat) : Option Nat :=
  if run.target ≤ n then
    let m := run.first + (n - run.target)
    if run.image? m == some n then some m else none
  else none

def lowerChar (c : Char) : Char :=
  if c.toNat < 0x80 then c.toLower
  else
    match lowerRuns.findSome? (·.image? c.toNat) with
    | some n => Char.ofNat n
    | none => c

def lowerPreimages (n : Nat) : List Nat :=
  let others := lowerRuns.filterMap (·.preimage? n)
  if (lowerRuns.findSome? (·.image? n)).isNone then n :: others else others

/-- The lower-case code points that are the same letter as `n` when case is ignored. -/
def caseFamily (n : Nat) : List Nat :=
  match caseFamilies.find? (·.contains n) with
  | some family => family
  | none => [n]

private def hasCase (c : Char) : Bool :=
  casedRanges.contains c.toNat

private def isLookedThrough (c : Char) : Bool :=
  caseIgnorableRanges.contains c.toNat

/-- Whether the nearest character that is not looked through is a cased letter. -/
private def meetsCased (s : List Char) : Bool :=
  match s.dropWhile isLookedThrough with
  | c :: _ => hasCase c
  | [] => false

/-- The lower-case form of `c` between the text `before` it, nearest first, and `after` it. -/
def lowerBetween (before : List Char) (c : Char) (after : List Char) : List Char :=
  if c = '\u03a3' then
    if meetsCased before && !meetsCased after then ['\u03c2'] else ['\u03c3']
  else if c = '\u0130' then ['i', '\u0307']
  else [lowerChar c]

private def lowerAfter (before : List Char) : List Char → List Char
  | [] => []
  | c :: rest => lowerBetween before c rest ++ lowerAfter (c :: before) rest

def lower (s : String) : String :=
  String.ofList (lowerAfter [] s.toList)

theorem lowerBetween_ne_nil (before : List Char) (c : Char) (after : List Char) :
    lowerBetween before c after ≠ [] := by
  unfold lowerBetween
  split
  · split <;> exact List.cons_ne_nil _ _
  · split <;> exact List.cons_ne_nil _ _

theorem lower_ne_empty {s : String} (h : s ≠ "") : lower s ≠ "" := by
  have hchars : s.toList ≠ [] := fun hnil => h (String.toList_eq_nil_iff.mp hnil)
  obtain ⟨c, rest, hcons⟩ := List.exists_cons_of_ne_nil hchars
  intro hlower
  rw [lower, hcons, lowerAfter] at hlower
  have hnil := congrArg String.toList hlower
  rw [String.toList_ofList] at hnil
  exact lowerBetween_ne_nil [] c rest (List.append_eq_nil_iff.mp hnil).1

end LineCensus.Text
