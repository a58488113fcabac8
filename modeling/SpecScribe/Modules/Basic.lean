import SpecScribe.Number.Binary
import SpecScribe.Datum.Describe
import SpecScribe.Element
import SpecScribe.Modules.Imports
import SpecScribe.Workspace.Path

/-!
A module: one source file with its elements, what it imports and exports, and how complex it is.
-/

namespace SpecScribe.Modules

open Workspace

structure ModuleInfo where
  path : Path
  language : Language
  elements : List Element := []
  dependencies : List Dependency := []
  exports : List String := []
  complexity : Float := 0.0
  lineCount : Nat := 0

namespace ModuleInfo

def functions (m : ModuleInfo) : List Element := m.elements.filter (·.kind == "function")

def classes (m : ModuleInfo) : List Element := m.elements.filter (·.kind == "class")

/-- What the length of an element adds to the complexity. -/
def sizeWeight (e : Element) : Nat :=
  let lines := e.endLine - e.startLine
  if 50 < lines then 2 else if 20 < lines then 1 else 0

/-- One for each function, two for each class, and more for long elements. -/
def weight (m : ModuleInfo) : Nat :=
  m.functions.length + 2 * m.classes.length + Number.total (m.elements.map sizeWeight)

def measured (m : ModuleInfo) : ModuleInfo := { m with complexity := m.weight.toFloat }

def add (m : ModuleInfo) (e : Element) : ModuleInfo := { m with elements := m.elements ++ [e] }

end ModuleInfo

instance : ToDatum ModuleInfo where
  toDatum m := .record
    [("file_path", toDatum m.path), ("language", toDatum m.language),
     ("elements", toDatum m.elements), ("dependencies", toDatum m.dependencies),
     ("exports", toDatum m.exports), ("complexity_score", toDatum m.complexity),
     ("line_count", toDatum m.lineCount)]

end SpecScribe.Modules
