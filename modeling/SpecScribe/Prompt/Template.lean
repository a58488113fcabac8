import SpecScribe.Datum
import SpecScribe.Fault
import SpecScribe.Text.Search

/-!
Texts with named holes. Filling a template writes each hole's value; the first hole without a
value is the fault.
-/

namespace SpecScribe.Prompt

inductive Piece where
  | text (s : String)
  | hole (key : String)

def Piece.block (ls : List String) : Piece := .text ("\n".intercalate ls)

abbrev Template := List Piece

namespace Template

def fillPiece (values : Members) : Piece → Except Fault String
  | .text s => .ok s
  | .hole key =>
    match values.get? key with
    | some d => .ok d.plain
    | none => .error (.missingKey key)

def fill (t : Template) (values : Members) : Except Fault String :=
  (t.mapM (fillPiece values)).map String.join

/-- The holes of a template, in order. -/
def holes (t : Template) : List String :=
  t.filterMap fun
    | .text _ => none
    | .hole key => some key

end Template

/-- Writes values into a text, one after another: a key in braces becomes the value, also inside
values written before. Double braces become single ones in the end. -/
def substitute (text : String) (values : Members) : String :=
  let filled := values.foldl (fun s (key, d) =>
    Text.replace ('\x7b' :: key.toList ++ ['\x7d']) d.plain.toList s) text.toList
  String.ofList (Text.replace ['\x7d', '\x7d'] ['\x7d']
    (Text.replace ['\x7b', '\x7b'] ['\x7b'] filled))

end SpecScribe.Prompt
