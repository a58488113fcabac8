import SpecScribe.Program.Basic

/-!
What the program prints, as it appears on a plain terminal: without colours, and tables as lines.
-/

namespace SpecScribe.Program

/-- The length of the mark that starts right behind an opening bracket, with its closing bracket.
A mark begins with a letter or a slash. -/
def markLength? : List Char → Option Nat
  | [] => none
  | c :: r =>
    if c.isAlpha || c == '/' then
      if r.contains ']' then some ((r.takeWhile (· != ']')).length + 2) else none
    else none

/-- Leaves out the marks of a text; `skip` characters belong to a mark that was found. -/
def unmarked : (skip : Nat) → List Char → List Char
  | _, [] => []
  | skip + 1, _ :: r => unmarked skip r
  | 0, c :: r =>
    match c, markLength? r with
    | '[', some n => unmarked n r
    | _, _ => c :: unmarked 0 r

def tableRows : List (List String) → List String
  | first :: rest :: _ => (first.zip rest).map fun (a, b) => a ++ "  " ++ b
  | [only] => only
  | [] => []

def Printed.lines : Printed → List String
  | .line text => [String.ofList (unmarked 0 text.toList)]
  | .table title columns => title :: tableRows columns

end SpecScribe.Program
