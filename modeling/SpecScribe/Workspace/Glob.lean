import SpecScribe.Text.Search

/-!
Patterns for names: a star stands for any text, a question mark for any character, and brackets
for one character of a set. Matching covers the whole text, and the case of letters counts.
-/

namespace SpecScribe.Workspace

inductive GlobPart where
  | star
  | any
  | char (c : Char)
  /-- A character that is, or is not, one of the singles or in one of the ranges. -/
  | oneOf (negated : Bool) (singles : List Char) (ranges : List (Char × Char))
  | never
  deriving DecidableEq

namespace Glob

/-- The place of the bracket that closes a set, behind the opening one. A bracket at the start of
the set, or behind the mark of negation there, belongs to the set. -/
def closing? (s : List Char) : Option Nat :=
  let skipped := match s with
    | '!' :: ']' :: _ => 2
    | '!' :: _ => 1
    | ']' :: _ => 1
    | _ => 0
  (Text.find? [']'] (s.drop skipped)).map (· + skipped)

/-- Cuts a set at the hyphens that make ranges. The first `skip` characters belong to the first
piece in any case, and a hyphen right behind the end of a range makes none. -/
def rangePieces : (skip : Nat) → (piece : List Char) → List Char → List (List Char)
  | _, piece, [] => [piece.reverse]
  | skip + 1, piece, c :: r => rangePieces skip (c :: piece) r
  | 0, piece, c :: r =>
    if c == '-' then piece.reverse :: rangePieces 2 [] r else rangePieces 0 (c :: piece) r

/-- A hyphen at the end of a set makes no range. -/
def joinLastHyphen : List (List Char) → List (List Char)
  | [] => []
  | [p, []] => [p ++ ['-']]
  | p :: r => p :: joinLastHyphen r

/-- Takes out the ranges whose ends are in the wrong order, from the last one on. -/
def dropEmptyRanges : List (List Char) → List (List Char)
  | [] => []
  | p :: r =>
    match dropEmptyRanges r with
    | [] => [p]
    | q :: r' =>
      match p.getLast?, q.head? with
      | some a, some b => if b < a then (p.dropLast ++ q.drop 1) :: r' else p :: q :: r'
      | _, _ => p :: q :: r'

/-- The ranges between neighbouring pieces. -/
def rangesOf : List (List Char) → List (Char × Char)
  | p :: q :: r =>
    match p.getLast?, q.head? with
    | some a, some b => (a, b) :: rangesOf (q :: r)
    | _, _ => rangesOf (q :: r)
  | _ => []

def setPart (inside : List Char) : GlobPart :=
  let pieces :=
    if inside.contains '-' then
      let skip := if inside.head? == some '!' then 2 else 1
      dropEmptyRanges (joinLastHyphen (rangePieces skip [] inside))
    else [inside]
  match pieces with
  | ('!' :: first) :: rest =>
    if first.isEmpty && rest.isEmpty then .any
    else .oneOf true (first :: rest).flatten (rangesOf (first :: rest))
  | pieces =>
    if pieces.flatten.isEmpty then .never
    else .oneOf false pieces.flatten (rangesOf pieces)

/-- Reads a pattern, passing over the first `skip` characters. -/
def read : Nat → List Char → List GlobPart
  | _, [] => []
  | skip + 1, _ :: r => read skip r
  | 0, c :: r =>
    if c == '*' then .star :: read 0 r
    else if c == '?' then .any :: read 0 r
    else if c == '[' then
      match closing? r with
      | some n => setPart (r.take n) :: read (n + 1) r
      | none => .char '[' :: read 0 r
    else .char c :: read 0 r

def GlobPart.accepts (c : Char) : GlobPart → Bool
  | .star => false
  | .any => true
  | .char d => c == d
  | .oneOf negated singles ranges =>
    let inside := singles.contains c || ranges.any fun (a, b) => a ≤ c && c ≤ b
    inside != negated
  | .never => false

def anySuffix (p : List Char → Bool) : List Char → Bool
  | [] => p []
  | c :: r => p (c :: r) || anySuffix p r

def covers : List GlobPart → List Char → Bool
  | [], s => s.isEmpty
  | .star :: ps, s => anySuffix (covers ps) s
  | p :: ps, c :: r => GlobPart.accepts c p && covers ps r
  | _ :: _, [] => false

end Glob

def globMatch (pattern text : String) : Bool :=
  Glob.covers (Glob.read 0 pattern.toList) text.toList

end SpecScribe.Workspace
