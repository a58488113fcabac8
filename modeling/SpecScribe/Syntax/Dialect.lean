import SpecScribe.Language
import SpecScribe.Syntax.Pattern
import SpecScribe.Text.Blank

/-!
What definitions look like in each language: the patterns for functions, classes and methods, how
parameters are listed, and where documentation stands.
-/

namespace SpecScribe.Syntax

/-- The languages whose trees are understood. -/
inductive Dialect where
  | python
  | javascript
  | typescript
  | java
  | cpp
  | c
  deriving DecidableEq, Inhabited

namespace Dialect

def ofLanguage : Language → Dialect
  | .python => .python
  | .javascript => .javascript
  | .typescript => .typescript
  | .java => .java
  | .cpp => .cpp

def pythonFunction : Pattern := .define "function_definition"
  [("name", false, .leaf "identifier" .name), ("parameters", true, .leaf "parameters" .params),
   ("body", false, .leaf "block" .body)]

def scriptFunction (kind nameKind : String) : Pattern := .define kind
  [("name", false, .leaf nameKind .name),
   ("parameters", false, .leaf "formal_parameters" .params),
   ("body", false, .leaf "statement_block" .body)]

def arrowFunction : Pattern := .define "arrow_function"
  [("parameters", false, .leaf "formal_parameters" .params),
   ("body", false, .mk none (some .body) [])]

def javaMethod : Pattern := .define "method_declaration"
  [("name", false, .leaf "identifier" .name),
   ("parameters", false, .leaf "formal_parameters" .params),
   ("body", false, .leaf "block" .body)]

def cFunction : Pattern := .define "function_definition"
  [("declarator", false, .mk (some "function_declarator") none
      [("declarator", false, .leaf "identifier" .name),
       ("parameters", false, .leaf "parameter_list" .params)]),
   ("body", false, .leaf "compound_statement" .body)]

def classPattern (kind nameKind bodyKind : String) : Pattern := .define kind
  [("name", false, .leaf nameKind .name), ("body", false, .leaf bodyKind .body)]

def functions : Dialect → Query
  | .python => [pythonFunction]
  | .javascript => [scriptFunction "function_declaration" "identifier", arrowFunction]
  | .typescript =>
    [scriptFunction "function_declaration" "identifier",
     scriptFunction "method_definition" "property_identifier", arrowFunction]
  | .java => [javaMethod]
  | .cpp => [cFunction]
  | .c => [cFunction]

def classes : Dialect → Query
  | .python => [classPattern "class_definition" "identifier" "block"]
  | .javascript => [classPattern "class_declaration" "identifier" "class_body"]
  | .typescript => [classPattern "class_declaration" "type_identifier" "class_body"]
  | .java => [classPattern "class_declaration" "identifier" "class_body"]
  | .cpp => [classPattern "class_specifier" "type_identifier" "field_declaration_list"]
  | .c => [classPattern "struct_specifier" "type_identifier" "field_declaration_list"]

/-- The methods of a class. Structures without methods have none. -/
def methods : Dialect → Query
  | .python => [pythonFunction]
  | .javascript | .typescript =>
    [scriptFunction "method_definition" "property_identifier",
     scriptFunction "function_declaration" "identifier"]
  | .java => [javaMethod]
  | .cpp => [cFunction]
  | .c => []

/-- The name of a function for which no name is found. -/
def unnamedFunction : Dialect → String
  | .javascript | .typescript => "anonymous"
  | _ => "unknown"

def classKind : Dialect → String
  | .c => "struct"
  | _ => "class"

/-- The spelling of the first identifier under a node, put behind a mark. -/
def firstIdentifier (mark : String) (n : Node) : Except Fault (List String) :=
  match n.firstChild? ["identifier"] with
  | some i => i.spelling.map fun s => [mark ++ s]
  | none => .ok []

def allIdentifiers (n : Node) : Except Fault (List String) :=
  (n.children.filter (·.kind == "identifier")).mapM Node.spelling

/-- The parameters that one entry of a parameter list names. -/
def parameterNames (d : Dialect) (n : Node) : Except Fault (List String) :=
  match d with
  | .python =>
    if n.kind == "identifier" then n.spelling.map ([·])
    else if n.kind == "typed_parameter" then firstIdentifier "" n
    else .ok []
  | .javascript | .typescript =>
    if n.kind == "identifier" then n.spelling.map ([·])
    else if n.kind == "required_parameter" || n.kind == "optional_parameter" then
      firstIdentifier "" n
    else if n.kind == "rest_parameter" then firstIdentifier "..." n
    else .ok []
  | .java => if n.kind == "formal_parameter" then allIdentifiers n else .ok []
  | .cpp | .c => if n.kind == "parameter_declaration" then allIdentifiers n else .ok []

def distinct (xs : List String) : List String :=
  xs.foldl (fun acc x => if acc.contains x then acc else acc ++ [x]) []

def parameters (d : Dialect) (params : Node) : Except Fault (List String) := do
  let names := (← params.children.mapM d.parameterNames).flatten
  return if d == .java then distinct names else names

def isQuoteMark (c : Char) : Bool := c == '"' || c == '\''

/-- The text that stands first in a body, without its quote marks. -/
def docText (body : Option Node) : Except Fault (Option String) :=
  match body with
  | none => .ok none
  | some b =>
    match b.children.findSome? fun c =>
        if c.kind == "expression_statement" then c.firstChild? ["string"] else none with
    | some s => s.spelling.map fun t => some (String.ofList (Text.stripWhile isQuoteMark t.toList))
    | none => .ok none

/-- The documentation comment right in front of a node, without its marks. -/
def docComment (before : Option Node) : Except Fault (Option String) :=
  match before with
  | some b =>
    if b.kind == "block_comment" then
      b.spelling.map fun s =>
        let cs := s.toList
        if "/**".toList.isPrefixOf cs then
          some (String.ofList (Text.strip ((cs.take (cs.length - 2)).drop 3)))
        else none
    else .ok none
  | none => .ok none

def documentation (d : Dialect) (definition : Located) (body : Option Node) :
    Except Fault (Option String) :=
  match d with
  | .python => docText body
  | .java => docComment definition.before
  | _ => .ok none

end Dialect

end SpecScribe.Syntax
