import SpecScribe.Outline.Head
import SpecScribe.Syntax.Dialect

/-!
Outlines: syntax trees made from a text line by line, without a grammar. Only the lines that open
a definition are read; where a definition ends is told by the depth of the lines below, or by the
balance of braces.
-/

namespace SpecScribe.Outline

open Text Syntax

def blockText (ls : List Line) : String := String.ofList (unlines ls)

def span (kind : String) (row width : Nat) (text : Option (List Char)) (children : List Node) :
    Node :=
  .mk kind ⟨row, 0⟩ ⟨row, width⟩ (text.map fun t => .ok (String.ofList t)) none children

def nameNode (kind : String) (row : Nat) (name : List Char) : Node :=
  span kind row (byteSize name) (some name) []

def rows (kind : String) (start : Point) (stop : Nat) (text : Option String)
    (children : List Node) : Node :=
  .mk kind start ⟨stop, 0⟩ (text.map .ok) none children

/-- The entries of a written list, without blanks at the ends; empty ones are dropped. -/
def entries (params : List Char) : List (List Char) :=
  ((splitOn [','] params).map strip).filter (!·.isEmpty)

/-- What stands before the first mark, without blanks at the ends. -/
def before (mark : Char) (s : List Char) : List Char := strip (s.takeWhile (· != mark))

def paramList (kind : String) (row : Nat) (entry : List Char → Node) (params : List Char) : Node :=
  span kind row 0 (some params) ((entries params).map entry)

def wrapped (kind : String) (row : Nat) (entry name : List Char) : Node :=
  span kind row 0 (some entry) [nameNode "identifier" row name]

/-- Reads lines from the top. A step looks at the lines from one row on, and says which node they
start and how many lines it takes. At most `limit` lines are looked at, `skip` of them belong to
the node before. -/
def scan (step : Nat → List Line → Option (Node × Nat)) (row : Nat) :
    (skip limit : Nat) → List Line → List Node
  | _, 0, _ => []
  | _, _, [] => []
  | skip + 1, limit + 1, _ :: r => scan step (row + 1) skip limit r
  | 0, limit + 1, l :: r =>
    match step row (l :: r) with
    | some (n, size) => n :: scan step (row + 1) (size - 1) limit r
    | none => scan step (row + 1) 0 limit r

/-- How many lines belong to a definition whose first line has the given depth: all below that are
blank or deeper. -/
def indentedSize (indent : Nat) : List Line → Nat
  | [] => 0
  | _ :: r => 1 + (r.takeWhile fun l => isBlankText l || indent < indentOf l).length

/-- How many lines there are until the braces are balanced. -/
def bracedSize (depth : Int) : List Line → Nat
  | [] => 0
  | l :: r =>
    let depth := depth + (l.count '\x7b' : Nat) - (l.count '\x7d' : Nat)
    if depth ≤ 0 then 1 else 1 + bracedSize depth r

/-! ### Definitions by depth -/

def indentedParam (row : Nat) (p : List Char) : Node :=
  if p.contains ':' then wrapped "typed_parameter" row p (before ':' p)
  else nameNode "identifier" row (before '=' p)

def docNode (row size : Nat) (body : List Line) : List Node :=
  match body with
  | l :: _ =>
    let s := strip l
    if 1 < size && ("\"\"\"".toList.isPrefixOf s || "'''".toList.isPrefixOf s) then
      [span "expression_statement" row 0 none [nameNode "string" row s]]
    else []
  | [] => []

def indentedFunction? (row : Nat) (ls : List Line) : Option (Node × Nat) :=
  match ls with
  | [] => none
  | l :: r => do
    let head ← wordedFunction? "def" l
    let indent := indentOf l
    let size := indentedSize indent ls
    let last := row + size - 1
    return (rows "function_definition" ⟨row, indent⟩ last (some (blockText (ls.take size)))
      [nameNode "identifier" row head.name,
       paramList "parameters" row (indentedParam row) head.params,
       rows "block" ⟨row + 1, 0⟩ last none (docNode (row + 1) size r)], size)

def indentedClass? (row : Nat) (ls : List Line) : Option (Node × Nat) :=
  match ls with
  | [] => none
  | l :: r => do
    let name ← named? "class" l
    let size := indentedSize 0 ls
    let last := row + size - 1
    let methods := scan indentedFunction? (row + 1) 0 (size - 1) r
    return (rows "class_definition" ⟨row, 0⟩ last (some (blockText (ls.take size)))
      [nameNode "identifier" row name,
       rows "block" ⟨row + 1, 0⟩ last none (docNode (row + 1) size r ++ methods)], size)

def indentedStep (row : Nat) (ls : List Line) : Option (Node × Nat) :=
  match ls with
  | [] => none
  | l :: _ =>
    match if indentOf l == 0 then indentedFunction? row ls else none with
    | some found => some found
    | none => indentedClass? row ls

/-! ### Definitions by braces -/

/-- The definitions inside a braced definition: on the lines between its first and its last. -/
def inner (step : Nat → List Line → Option (Node × Nat)) (row last : Nat) (below : List Line) :
    List Node :=
  scan step (row + 1) 0 (last - row - 1) below

/-- A node of braced lines: what it is called, with the parts made from its last row. -/
def braced (kind : String) (row : Nat) (ls : List Line) (children : Nat → List Node) :
    Node × Nat :=
  let size := bracedSize 0 ls
  let last := row + size - 1
  (rows kind ⟨row, 0⟩ last (some (blockText (ls.take size))) (children last), size)

/-- A parameter of a script. Only a typed script knows parameters with a type and those that can
be left out, which have a question mark. -/
def scriptParam (typed : Bool) (row : Nat) (p : List Char) : Node :=
  match after? "...".toList p with
  | some name => wrapped "rest_parameter" row p name
  | none =>
    if typed && p.contains '?' then
      wrapped "optional_parameter" row p (before ':' (p.filter (· != '?')))
    else if typed && p.contains ':' then wrapped "required_parameter" row p (before ':' p)
    else nameNode "identifier" row p

def scriptParams (typed : Bool) (row : Nat) (params : List Char) : Node :=
  paramList "formal_parameters" row (scriptParam typed row) params

def scriptMethodStep (typed : Bool) (row : Nat) (ls : List Line) : Option (Node × Nat) :=
  match ls with
  | [] => none
  | l :: _ => do
    let head ← scriptMethod? l
    return braced "method_definition" row ls fun last =>
      [nameNode "property_identifier" row head.name, scriptParams typed row head.params,
       rows "statement_block" ⟨row, 0⟩ last none []]

def scriptStep (typed : Bool) (row : Nat) (ls : List Line) : Option (Node × Nat) :=
  match ls with
  | [] => none
  | l :: r =>
    match wordedClass? l with
    | some name => some (braced "class_declaration" row ls fun last =>
        [nameNode (if typed then "type_identifier" else "identifier") row name,
         rows "class_body" ⟨row, 0⟩ last none (inner (scriptMethodStep typed) row last r)])
    | none =>
      match wordedFunction? "function" l with
      | some head => some (braced "function_declaration" row ls fun last =>
          [nameNode "identifier" row head.name, scriptParams typed row head.params,
           rows "statement_block" ⟨row, 0⟩ last none []])
      | none => do
        let params ← arrow? l
        return (span "arrow_function" row l.length (some l)
          [scriptParams typed row params, nameNode "identifier" row "body".toList], 1)

/-- The last word of an entry, without the given marks at its ends. -/
def lastWord (isMark : Char → Bool) (p : List Char) : List Char :=
  stripWhile isMark ((words p).getLastD [])

/-- A documentation comment, up to the line that closes it. One that is never closed ends behind
the last line. -/
def commentStep (row : Nat) (ls : List Line) : Option (Node × Nat) :=
  match ls with
  | [] => none
  | l :: _ =>
    if "/**".toList.isPrefixOf (strip l) then
      let inside := (ls.takeWhile fun l => !contains "*/".toList l).length
      some (rows "block_comment" ⟨row, 0⟩ (row + inside)
        (some (blockText (ls.take (inside + 1)))) [], inside + 1)
    else none

def accessMethodStep (row : Nat) (ls : List Line) : Option (Node × Nat) :=
  match commentStep row ls, ls with
  | some found, _ => some found
  | none, [] => none
  | none, l :: _ => do
    let head ← accessMethod? l
    return braced "method_declaration" row ls fun last =>
      [nameNode "identifier" row head.name,
       paramList "formal_parameters" row (fun p =>
         wrapped "formal_parameter" row p (lastWord (fun _ => false) p)) head.params,
       rows "block" ⟨row, 0⟩ last none []]

def accessClassStep (row : Nat) (ls : List Line) : Option (Node × Nat) :=
  match commentStep row ls, ls with
  | some found, _ => some found
  | none, [] => none
  | none, l :: r => do
    let name ← accessClass? l
    return braced "class_declaration" row ls fun last =>
      [nameNode "identifier" row name,
       rows "class_body" ⟨row, 0⟩ last none (inner accessMethodStep row last r)]

def typedFunctionStep (row : Nat) (ls : List Line) : Option (Node × Nat) :=
  match ls with
  | [] => none
  | l :: _ => do
    let head ← typedFunction? l
    return braced "function_definition" row ls fun last =>
      [span "function_declarator" row 0 none
         [nameNode "identifier" row head.name,
          paramList "parameter_list" row (fun p =>
            wrapped "parameter_declaration" row p (lastWord (fun c => c == '*' || c == '&') p))
            head.params],
       rows "compound_statement" ⟨row, 0⟩ last none []]

def recordStep (row : Nat) (ls : List Line) : Option (Node × Nat) :=
  match ls with
  | [] => none
  | l :: r =>
    match recordHead? l with
    | some (word, name) => some (braced (word ++ "_specifier") row ls fun last =>
        [nameNode "type_identifier" row name,
         rows "field_declaration_list" ⟨row, 0⟩ last none (inner typedFunctionStep row last r)])
    | none => typedFunctionStep row ls

/-! ### Whole texts -/

/-- The kind of the root, and the definitions that stand at the top. -/
def rules : Dialect → String × (Nat → List Line → Option (Node × Nat))
  | .python => ("module", indentedStep)
  | .javascript => ("program", scriptStep false)
  | .typescript => ("program", scriptStep true)
  | .java => ("program", accessClassStep)
  | .cpp | .c => ("translation_unit", recordStep)

/-- A tree with the lines it was made from. -/
structure Sketch where
  dialect : Dialect
  lines : List Line
  root : Node

/-- The outline of a text given as bytes. Bytes that spell nothing are read as replacement
characters. -/
def ofBytes (d : Dialect) (bytes : List UInt8) : Sketch :=
  let ls := lines (decodeLenient 0 bytes)
  let (kind, step) := rules d
  { dialect := d, lines := ls,
    root := .mk kind ⟨0, 0⟩ ⟨ls.length - 1, 0⟩ (some ((decodeUtf8 bytes).map String.ofList)) none
      (scan step 0 0 ls.length ls) }

/-- Whether a node knows the sibling before it: a class or a method below a comment or another
definition, with nothing but blank lines between them. -/
def Sketch.linked (o : Sketch) (previous n : Node) : Bool :=
  o.dialect == .java && (n.kind == "class_declaration" || n.kind == "method_declaration") &&
    ((o.lines.take n.start.row.toNat).drop (previous.stop.row.toNat + 1)).all isBlankText

mutual

/-- All nodes, a node before its children and the last child first. -/
def Sketch.walk (o : Sketch) (place : List Nat) (previous : Option Node) :
    Node → List Located
  | .mk k s e t f cs => ⟨place, .mk k s e t f cs, previous⟩ :: Sketch.walkList o place 0 none cs

def Sketch.walkList (o : Sketch) (place : List Nat) (i : Nat) (previous : Option Node) :
    List Node → List Located
  | [] => []
  | n :: r =>
    Sketch.walkList o place (i + 1) (some n) r ++
      Sketch.walk o (place ++ [i]) (previous.filter fun p => o.linked p n) n

end

end SpecScribe.Outline
