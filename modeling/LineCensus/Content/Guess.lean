import LineCensus.Content.Rating
import LineCensus.Registry
import LineCensus.Text.Utf8

/-!
# Guessing the language of content

Of several languages, the one that the content speaks for most; the first of those if there are
several.
-/

namespace LineCensus.Content

/-- How much a text speaks for a language, in hundredths of a hint.  Nothing speaks for what is no
text. -/
def score (language : Value) (text : List Char) : Nat :=
  match language with
  | .text name => 100 * hintCount name text + rating name text
  | _ => 0

/-- Of a candidate and those after it, which come with their scores, the first with the highest
score. -/
def leader {σ : Type} [LT σ] [DecidableLT σ] (first : Value × σ) (others : List (Value × σ)) :
    Value × σ :=
  others.foldl (fun best next => if best.2 < next.2 then next else best) first

/-- The candidate that the content speaks for most, as far as scores of any kind say; null if there
are no candidates.  What speaks for a candidate is looked up. -/
def guessBy {σ : Type} [LT σ] [DecidableLT σ] (score : Value → List Char → σ)
    (content : List UInt8) (candidates : List Value) : Except LanguageFault Value :=
  let text := Text.Utf8.decodeDropping content
  if !candidates.all Value.isHashable then .error .unhashable
  else
    match candidates.map fun language => (language, score language text) with
    | [] => .ok .null
    | first :: others => .ok (leader first others).1

def guess (content : List UInt8) (candidates : List Value) : Except LanguageFault Value :=
  guessBy score content candidates

end LineCensus.Content
