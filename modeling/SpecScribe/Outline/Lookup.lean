import SpecScribe.Outline.Tree
import SpecScribe.Syntax.Parsers

/-!
Elements of an outline. A query on an outline looks at the kinds of nodes only: a role is given to
every node of a kind that the query names for it. Outlines make a parsing service: every language
has one, and no text fails.
-/

namespace SpecScribe.Outline

open Text Syntax

/-- The kinds that a query written as text names for each of its marks. A mark belongs to the
bracket that was closed last; one without a bracket, or whose bracket has no kind, has none. -/
structure Marks where
  stack : List (Option String) := []
  last : Option String := none
  marks : List (String × Option String) := []

def isMarkChar (c : Char) : Bool := isWord c || c == '.'

/-- Reads the query from the left; `skip` characters have been read already. -/
def readMarks (m : Marks) : Nat → List Char → Marks
  | _, [] => m
  | skip + 1, _ :: r => readMarks m skip r
  | 0, c :: r =>
    if c == '(' then
      match word? r with
      | some (kind, _) =>
        readMarks { m with stack := some (String.ofList kind) :: m.stack } kind.length r
      | none => readMarks { m with stack := none :: m.stack } 0 r
    else if c == ')' then
      match m.stack with
      | top :: rest => readMarks { m with stack := rest, last := top } 0 r
      | [] => readMarks m 0 r
    else if c == '@' then
      match run? isMarkChar r with
      | some (name, _) =>
        readMarks { m with marks := m.marks ++ [(String.ofList name, m.last)] } name.length r
      | none => readMarks m 0 r
    else readMarks m 0 r

mutual

def patternKinds (role : Role) : Pattern → List String
  | .mk kind own fields =>
    (match kind with
      | some k => if own == some role then [k] else []
      | none => []) ++ fieldKinds role fields

def fieldKinds (role : Role) : List (String × Bool × Pattern) → List String
  | [] => []
  | (_, _, p) :: r => patternKinds role p ++ fieldKinds role r

end

def Sketch.finder (o : Sketch) : Finder := fun q role =>
  let kinds := q.flatMap (patternKinds role)
  (o.walk [] none o.root).filter fun l => kinds.contains l.node.kind

def service : Parsers where
  languages := Language.all
  parse l bytes := .ok (ofBytes (Dialect.ofLanguage l) bytes).finder

end SpecScribe.Outline
