import SpecScribe.Number.Binary
import SpecScribe.Text.Blank
import SpecScribe.Text.Case

/-!
Numbers written in a text. Blanks around the number, a sign, digits of any script and single
underscores between digits are accepted.
-/

namespace SpecScribe.Number

open Text

/-- Digits with single underscores between them: their values, and what follows. At least one
digit is needed, and an underscore must be followed by a digit. -/
def digitRun : List Char → Option (List Nat × List Char)
  | [] => none
  | c :: '_' :: r =>
    match digitValue? c with
    | none => none
    | some d => (digitRun r).map fun (ds, rest) => (d :: ds, rest)
  | c :: r =>
    match digitValue? c, digitRun r with
    | none, _ => none
    | some d, some (ds, rest) => some (d :: ds, rest)
    | some d, none => some ([d], r)

def ofDigits (ds : List Nat) : Nat := ds.foldl (fun n d => 10 * n + d) 0

def signed : List Char → Bool × List Char
  | '-' :: r => (true, r)
  | '+' :: r => (false, r)
  | s => (false, s)

/-- The digits of the integer that a text spells, and whether it is negative. -/
def wholeDigits? (s : List Char) : Option (Bool × List Nat) :=
  let (negative, body) := signed (strip s)
  match digitRun body with
  | some (ds, []) => some (negative, ds)
  | _ => none

def readInt? (s : List Char) : Option Int :=
  (wholeDigits? s).map fun (negative, ds) =>
    if negative then -(ofDigits ds : Int) else ofDigits ds

def fractionRun : List Char → Option (List Nat × List Char)
  | '.' :: r => some ((digitRun r).getD ([], r))
  | s => some ([], s)

def exponentRun : List Char → Option (Int × List Char)
  | 'e' :: r =>
    let (negative, body) := signed r
    (digitRun body).map fun (ds, rest) =>
      (if negative then -(ofDigits ds : Int) else (ofDigits ds : Int), rest)
  | s => some (0, s)

def namedFloat? (negative : Bool) (s : List Char) : Option Float :=
  if s == "inf".toList || s == "infinity".toList then
    some (Float.ofBits (if negative then 0xfff0000000000000 else 0x7ff0000000000000))
  else if s == "nan".toList then some (Float.ofBits 0x7ff8000000000000)
  else none

def readFloat? (s : List Char) : Option Float :=
  let (negative, body) := signed ((strip s).map Char.toLower)
  match namedFloat? negative body with
  | some x => some x
  | none =>
    let whole := (digitRun body).getD ([], body)
    match fractionRun whole.2 with
    | none => none
    | some (fs, rest) =>
      if whole.1.isEmpty && fs.isEmpty then none
      else match exponentRun rest with
        | some (e, []) =>
          some (nearestDecimal negative (ofDigits (whole.1 ++ fs)) (e - fs.length))
        | _ => none

end SpecScribe.Number
