import SpecScribe.Datum.Describe
import SpecScribe.Language
import SpecScribe.Text.Blank
import SpecScribe.Text.Search

/-!
What a source text imports and exports, read line by line.
-/

namespace SpecScribe.Modules

open Text

/-- Something that a module depends on: what is imported, and the module it comes from if that is
named apart. -/
structure Dependency where
  name : String
  kind : String
  source : Option String := none
  deriving DecidableEq

/-- The first piece of a text split at a mark, without blanks at the ends. -/
def firstPiece (mark : Char) (s : List Char) : String :=
  String.ofList (strip (s.takeWhile (· != mark)))

/-- The import on one line: a module, or one name from a module. Of several names the first one
counts. -/
def importLine? (line : List Char) : Option Dependency :=
  let l := strip line
  match after? "import ".toList l with
  | some rest => some ⟨firstPiece '.' rest, "module", none⟩
  | none =>
    if "from ".toList.isPrefixOf l then
      match splitOn " import ".toList l with
      | [left, right] =>
        some ⟨firstPiece ',' right, "function", some (String.ofList (strip (left.drop 5)))⟩
      | _ => none
    else none

def isQuote (c : Char) : Bool := c == '\'' || c == '"'

/-- The module named in a call that loads it, between single quotes. -/
def requiredModule? (l : List Char) : Option (List Char) := do
  let (_, rest) ← cut? "require('".toList l
  let (name, _) ← cut? "')".toList rest
  if name.isEmpty then none else some name

/-- The import on one line of a script: the module it is taken from. -/
def scriptImportLine? (line : List Char) : Option Dependency :=
  let l := strip line
  if "import ".toList.isPrefixOf l then
    match splitParts " from ".toList 0 l with
    | (_, []) => none
    | (_, pieces) =>
      some ⟨String.ofList (stripWhile isQuote (strip (pieces.getLastD []))), "module", none⟩
  else if "const ".toList.isPrefixOf l && contains "require(".toList l then
    (requiredModule? l).map fun m => ⟨String.ofList m, "module", none⟩
  else none

def dependencies (l : Language) (text : List Char) : List Dependency :=
  match l with
  | .python => (lines text).filterMap importLine?
  | .javascript | .typescript => (lines text).filterMap scriptImportLine?
  | _ => []

def exports (l : Language) (text : List Char) : List String :=
  match l with
  | .python => if contains "__all__".toList text then ["__all__"] else []
  | .javascript | .typescript =>
    ((lines text).map strip).filterMap fun s =>
      if "export ".toList.isPrefixOf s then some (String.ofList s) else none
  | _ => []

/-- The number of lines. A last line without a line break counts if it is not empty. -/
def countLines (text : List Char) : Nat :=
  let ls := lines text
  if (ls.getLastD []).isEmpty then ls.length - 1 else ls.length

instance : ToDatum Dependency where
  toDatum x := .record
    [("name", toDatum x.name), ("type", toDatum x.kind), ("source", toDatum x.source)]

end SpecScribe.Modules
