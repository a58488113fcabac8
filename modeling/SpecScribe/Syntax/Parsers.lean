import SpecScribe.Syntax.Extraction
import SpecScribe.Syntax.Grammar
import SpecScribe.Workspace.Store

/-!
Elements and classes of source files. How bytes become a tree is left to a parsing service; a
failure of it, or of the extraction, means that nothing is found.
-/

namespace SpecScribe.Syntax

open Workspace

structure Parsers where
  /-- The languages that can be parsed. -/
  languages : List Language
  /-- Makes bytes searchable. -/
  parse : Language → List UInt8 → Except Fault Finder

namespace Parsers

def supports (ps : Parsers) (l : Language) : Bool := ps.languages.contains l

def orNone {α : Type} (r : Except Fault (List α)) : List α :=
  match r with
  | .ok xs => xs
  | .error _ => []

def elementsOf (ps : Parsers) (l : Language) (bytes : List UInt8) : List Element :=
  if ps.supports l then
    orNone do (Dialect.ofLanguage l).extractAll (← ps.parse l bytes)
  else []

/-- The elements of a file. Only a missing file and a language without a parser are faults. -/
def fileElements (ps : Parsers) (s : Store) (p : Path) (l : Language) :
    Except Fault (List Element) :=
  if ps.supports l then
    match s.read p with
    | .ok c => .ok (ps.elementsOf l c.toBytes)
    | .error .notFound => .error (.file .notFound p.toString)
    | .error _ => .ok []
  else .error (.badValue ("Language " ++ l.name ++ " is not supported"))

/-- The classes of a file with their methods; `name` is how the file is called in them. -/
def fileStructures (ps : Parsers) (s : Store) (p : Path) (name : String) (l : Language) :
    List ClassStructure :=
  if ps.supports l then
    match s.read p with
    | .ok c => orNone do
        (Dialect.ofLanguage l).extractStructures (← ps.parse l c.toBytes) name
    | .error _ => []
  else []

end Parsers

end SpecScribe.Syntax
