/-!
Finding and replacing inside a text. An occurrence is looked for from the left, and the search
goes on behind it, so occurrences do not overlap. All functions expect a pattern that is not empty.
-/

namespace SpecScribe.Text

def after? : List Char → List Char → Option (List Char)
  | [], s => some s
  | _ :: _, [] => none
  | p :: ps, c :: cs => if p == c then after? ps cs else none

def find? (pat : List Char) : List Char → Option Nat
  | [] => if pat.isEmpty then some 0 else none
  | c :: r => if pat.isPrefixOf (c :: r) then some 0 else (find? pat r).map (· + 1)

/-- The index of the last occurrence, overlapping ones included. -/
def findLast? (pat : List Char) : List Char → Option Nat
  | [] => if pat.isEmpty then some 0 else none
  | c :: r =>
    match findLast? pat r with
    | some i => some (i + 1)
    | none => if pat.isPrefixOf (c :: r) then some 0 else none

def contains (pat s : List Char) : Bool := (find? pat s).isSome

/-- The text before the first occurrence and the text behind it. -/
def cut? (pat : List Char) : List Char → Option (List Char × List Char)
  | [] => if pat.isEmpty then some ([], []) else none
  | c :: r =>
    match after? pat (c :: r) with
    | some rest => some ([], rest)
    | none => (cut? pat r).map fun (a, b) => (c :: a, b)

/-- Splits at every occurrence of `sep`, skipping the next `skip` characters first: the piece
before the first occurrence, and the pieces behind each. -/
def splitParts (sep : List Char) : Nat → List Char → List Char × List (List Char)
  | _, [] => ([], [])
  | skip + 1, _ :: r => splitParts sep skip r
  | 0, c :: r =>
    if sep.isPrefixOf (c :: r) then
      let (h, t) := splitParts sep (sep.length - 1) r
      ([], h :: t)
    else
      let (h, t) := splitParts sep 0 r
      (c :: h, t)

/-- The pieces between the occurrences of `sep`, one more than there are occurrences. -/
def splitOn (sep s : List Char) : List (List Char) :=
  let (h, t) := splitParts sep 0 s
  h :: t

def count (pat s : List Char) : Nat := (splitParts pat 0 s).2.length

def replace (old new s : List Char) : List Char :=
  new.intercalate (splitOn old s)

/-- The lines of a text. A final line break is followed by an empty last line. -/
def lines (s : List Char) : List (List Char) := splitOn ['\n'] s

def isLineEnd (c : Char) : Bool :=
  ('\x0a' ≤ c && c ≤ '\x0d') || ('\x1c' ≤ c && c ≤ '\x1e') || c == '\u0085' || c == '\u2028'
    || c == '\u2029'

/-- The lines of printed text, without their ends; `start` is the start of the first one, last
character first. A carriage return and a line break end one line, and nothing follows the last
end. -/
def printedLines (start : List Char) : List Char → List (List Char)
  | [] => if start.isEmpty then [] else [start.reverse]
  | '\r' :: '\n' :: r => start.reverse :: printedLines [] r
  | c :: r =>
    if isLineEnd c then start.reverse :: printedLines [] r else printedLines (c :: start) r

def unlines (ls : List (List Char)) : List Char := ['\n'].intercalate ls

/-- Both kinds of line break with a carriage return become a plain line break. -/
def unifyBreaks : List Char → List Char
  | [] => []
  | '\r' :: '\n' :: r => '\n' :: unifyBreaks r
  | '\r' :: r => '\n' :: unifyBreaks r
  | c :: r => c :: unifyBreaks r

end SpecScribe.Text
