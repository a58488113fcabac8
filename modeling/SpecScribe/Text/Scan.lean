import SpecScribe.Text.Blank
import SpecScribe.Text.Search
import SpecScribe.Text.Word

/-!
Reading a line from the left. A reader gives what it found and the rest, or nothing if the line
does not go on as asked.
-/

namespace SpecScribe.Text

/-- The longest start of at least one character that satisfies `p`. -/
def run? (p : Char → Bool) (s : List Char) : Option (List Char × List Char) :=
  match s.span p with
  | ([], _) => none
  | (a, rest) => some (a, rest)

def blanks? (s : List Char) : Option (List Char) := (run? isBlank s).map (·.2)

def word? (s : List Char) : Option (List Char × List Char) := run? isWord s

def keyword? (word : String) (s : List Char) : Option (List Char) :=
  (after? word.toList s).bind blanks?

def parenthesised? (s : List Char) : Option (List Char × List Char) := do
  let r ← after? ['('] s
  let (inside, r) := r.span (· != ')')
  let r ← after? [')'] r
  return (inside, r)

end SpecScribe.Text
