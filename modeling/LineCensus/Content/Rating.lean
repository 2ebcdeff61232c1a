import LineCensus.Content.Hints
import LineCensus.Text.Blank
import LineCensus.Text.Occurs

/-!
# Ratings of content

How much a text looks like a language by the habits of that language, in hundredths.  Of the
languages that share an extension some have no such habits; they are rated at nothing.
-/

namespace LineCensus.Content

def certain : Nat := 100

def firstOf (tests : List (Bool × Nat)) : Nat :=
  ((tests.find? (·.1)).map Prod.snd).getD 0

def perWord (each : Nat) (words : List String) (text : List Char) : Nat :=
  each * (words.filter fun word => Text.occursIn word.toList text).length

def mentions (word : String) (text : List Char) : Bool :=
  Text.occursIn word.toList text

def endsLine (c : Char) : Bool :=
  let n := c.toNat
  (0xa ≤ n && n ≤ 0xd) || (0x1c ≤ n && n ≤ 0x1e) || n == 0x85 || n == 0x2028 || n == 0x2029

def rateObjectiveC (text : List Char) : Nat :=
  firstOf
    [(matchesIn "@(?:end|implementation|protocol)" text, certain),
     (mentions "@\"" text, 80),
     (matchesIn "@[0-9]+" text, 70),
     (matchesIn
        ("\\[\\s*[a-zA-Z_]\\w*\\s+(?:[a-zA-Z_]\\w*\\s*\\]|(?:[a-zA-Z_]\\w*)?:)") text, 80)]

/-- The first line of a text, unless the text starts with a comment. -/
def firstStatement (text : List Char) : List Char :=
  if matchesIn "\\A\\s*%" text then [] else Text.trim (text.takeWhile (!endsLine ·))

def rateMatlab (text : List Char) : Nat :=
  let statement := firstStatement text
  firstOf
    [("function".toList.isPrefixOf statement && !statement.contains '\x7b', certain),
     (matchesIn "(?m)^\\s*%" text, 20),
     (matchesIn "(?m)^!\\w+" text, 20)]

def rateRebol (text : List Char) : Nat :=
  firstOf
    [(matchesIn "(?i)\\A\\s*REBOL\\s*\\[" text, certain), (matchesIn "(?i)\\s*REBOL\\s*\\[" text, 50)]

def rating (language : String) (text : List Char) : Nat :=
  match language with
  | "Objective-C" => rateObjectiveC text
  | "MATLAB" => rateMatlab text
  | "Coq" => if mentions "Qed" text && mentions "Proof" text then certain else 0
  | "Verilog" => perWord 10 ["reg", "wire", "assign"] text
  | "F#" => perWord 5 ["|>", "<|"] text
  | "R" => if matchesIn "[a-z0-9_\\])\\s]<-(?!-)" text then 11 else 0
  | "Rebol" => rateRebol text
  | _ => 0

end LineCensus.Content
