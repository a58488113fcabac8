import SpecScribe.Syntax.Dialect
import SpecScribe.ClassStructure

/-!
Elements of code found in a syntax tree. A definition takes its name, its parameters and its body
from the first nodes of these roles that lie in its span, in the order in which they were found.
-/

namespace SpecScribe.Syntax

/-- A way to look up the nodes that a query finds. -/
abbrev Finder := Query → Role → List Located

/-- The nodes that match the patterns of a query in a tree. -/
def matchFinder (root : Node) : Finder := fun q role => q.captures root role

namespace Dialect

/-- The first node of a role that lies in the span of a definition. -/
def part? (found : Role → List Located) (role : Role) (definition : Node) : Option Node :=
  ((found role).find? fun l => l.node.within definition).map (·.node)

def functionElement (d : Dialect) (found : Role → List Located) (definition : Located) :
    Except Fault Element := do
  let node := definition.node
  let name ← match part? found .name node with
    | some n => n.spelling
    | none => pure d.unnamedFunction
  let parameters ← match part? found .params node with
    | some n => d.parameters n
    | none => pure []
  let content ← node.spelling
  let doc ← d.documentation definition (part? found .body node)
  Element.checked
    { name := name, kind := "function", startLine := node.startLine, endLine := node.endLine,
      content := content, doc := doc, parameters := parameters }

def classElement (d : Dialect) (found : Role → List Located) (definition : Located) :
    Except Fault Element := do
  let node := definition.node
  let name ← match part? found .name node with
    | some n => n.spelling
    | none => pure "unknown"
  let content ← node.spelling
  let doc ← d.documentation definition (part? found .body node)
  Element.checked
    { name := name, kind := d.classKind, startLine := node.startLine, endLine := node.endLine,
      content := content, doc := doc }

def extractFunctions (d : Dialect) (find : Finder) : Except Fault (List Element) :=
  let found := find d.functions
  (found .definition).mapM (d.functionElement found)

def extractClasses (d : Dialect) (find : Finder) : Except Fault (List Element) :=
  let found := find d.classes
  (found .definition).mapM (d.classElement found)

def extractAll (d : Dialect) (find : Finder) : Except Fault (List Element) := do
  let functions ← d.extractFunctions find
  let classes ← d.extractClasses find
  return functions ++ classes

/-- The methods whose lines lie between the lines of a class. -/
def methodsBetween (d : Dialect) (find : Finder) (first last : Int) :
    Except Fault (List Element) :=
  let found := find d.methods
  ((found .definition).filter fun l => first ≤ l.node.startLine && l.node.endLine ≤ last).mapM
    (d.functionElement found)

/-- A class with its methods; one without a name or a body is passed over. -/
def classStructure? (d : Dialect) (find : Finder) (path : String) (definition : Located) :
    Except Fault (Option ClassStructure) := do
  let found := find d.classes
  let node := definition.node
  let name ← match part? found .name node with
    | some n => n.spelling
    | none => pure ""
  match part? found .body node with
  | none => return none
  | some body =>
    if name == "" then return none
    let methods ← d.methodsBetween find node.startLine node.endLine
    let doc ← d.documentation definition (some body)
    return some
      { name := name, methods := methods.map .element, attributes := [], doc := doc,
        startLine := node.startLine, endLine := node.endLine, path := path }

def extractStructures (d : Dialect) (find : Finder) (path : String) :
    Except Fault (List ClassStructure) := do
  let found ← (find d.classes .definition).mapM (d.classStructure? find path)
  return found.filterMap id

end Dialect

end SpecScribe.Syntax
