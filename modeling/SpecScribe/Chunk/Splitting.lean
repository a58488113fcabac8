import SpecScribe.Chunk.Enhanced
import SpecScribe.Datum.Order
import SpecScribe.Modules.Analyzer

/-!
Cutting files into chunks: by a text splitter, by the elements of the syntax tree, or class by
class. If anything goes wrong there are no chunks. A splitter by size alone cuts a text into
windows: each starts a fixed distance behind the one before, which is shorter than the window when
neighbours overlap.
-/

namespace SpecScribe.Chunk

open Workspace Syntax Modules

/-- Services that cut a text into pieces. -/
structure Splitters where
  plain : String → Except Fault (List Datum)
  /-- A splitter that looks at the meaning, if there is one. -/
  semantic : Option (String → Except Fault (List Datum)) := none

def plainSettings (size overlap : Int) : Members :=
  [("chunk_size", .int size), ("chunk_overlap", .int overlap),
   ("separators", .list [.text "\n\n", .text "\n", .text " ", .text ""]),
   ("length_function", .text "len")]

/-- What a semantic splitter is asked for. It needs a key. -/
def semanticSettings? : Option String → Option Members
  | none => none
  | some "" => none
  | some key =>
    some [("breakpoint_threshold_type", .text "percentile"),
      ("embeddings", .record [("openai_api_key", .text key)])]

structure SplitterService where
  plain : String → Except Fault (List Datum)
  semantic : String → Except Fault (List Datum)
  /-- Whether a semantic splitter can be made. -/
  semanticReady : Bool := true

/-- What the semantic splitter is made with, if it can be made. -/
def SplitterService.semanticSettings? (s : SplitterService) (key : Option String) :
    Option Members :=
  if s.semanticReady then Chunk.semanticSettings? key else none

def SplitterService.splitters (s : SplitterService) (key : Option String) : Splitters where
  plain := s.plain
  semantic := (s.semanticSettings? key).map fun _ => s.semantic

/-- Nothing, if a computation fails. -/
def orNothing {α : Type} (r : Except Fault (List α)) : List α :=
  match r with
  | .ok xs => xs
  | .error _ => []

/-- A chunk of a piece of text, whose place in the file is not known. -/
def pieceChunk (path : Path) (l : Language) (kind : String) (piece : Datum) :
    Except Fault CodeChunk :=
  match piece with
  | .text s =>
    match CodeChunk.make s path l 1 ((s.toList.count '\n' : Nat) + 1) kind with
    | .ok c => .ok c
    | .error es => .error (.invalid "CodeChunk" es)
  | d => .error (.noMember d.kind "count")

def ofContent (sp : Splitters) (content : String) (path : Path) (l : Language) (semantic : Bool) :
    List CodeChunk :=
  orNothing <|
    match semantic, sp.semantic with
    | true, some split => do (← split content).mapM (pieceChunk path l "semantic_chunk")
    | _, _ => do (← sp.plain content).mapM (pieceChunk path l "text_chunk")

def ofModule (path : Path) (l : Language) (m : ModuleInfo) : List CodeChunk :=
  match m.elements.mapM fun e =>
      CodeChunk.make e.content path l e.startLine e.endLine e.kind with
  | .ok cs => cs
  | .error _ => []

/-- The chunks of the elements of a file, which the analyzer keeps. -/
def ofElements (a : Analyzer) (ps : Parsers) (s : Store) (path : Path) (l : Language) :
    List CodeChunk × Analyzer :=
  match a.analyzeFile ps s path l with
  | (some m, a') => (ofModule path l m, a')
  | (none, a') => ([], a')

/-- The head that stands over each method of a class that is cut. -/
def classHeader (c : ClassStructure) : String :=
  let head := "class " ++ c.name ++ ":"
  match c.doc with
  | none => head
  | some "" => head
  | some d => head ++ "\n    \"\"\"\n    " ++ d ++ "\n    \"\"\""

/-- One chunk for each method of a class, under the head of the class. -/
def splitClass (c : ClassStructure) (path : Path) (l : Language) :
    Except Fault (List EnhancedChunk) :=
  c.methods.mapM fun m =>
    let content := classHeader c ++ "\n\n    " ++ (m.attributeOrShown "content").plain
    match CodeChunk.read
        [("content", .text content), ("file_path", .text path.toString),
         ("language", .text l.name),
         ("start_line", (m.attribute? "start_line").getD (.int c.startLine)),
         ("end_line", (m.attribute? "end_line").getD (.int c.endLine)),
         ("chunk_type", .text "class_method")] with
    | .ok chunk => .ok ⟨chunk, [c], false, some c.name⟩
    | .error es => .error (.invalid "CodeChunk" es)

/-- The chunks of one class: one if it is small enough, else one for each method. -/
def classChunks (size : Datum) (path : Path) (l : Language) (c : ClassStructure) :
    Except Fault (List EnhancedChunk) := do
  let content := c.unified
  if ← Datum.compareBy .le (.int content.length) size then
    match CodeChunk.make content path l c.startLine c.endLine "complete_class" with
    | .ok chunk => return [⟨chunk, [c], true, some c.name⟩]
    | .error es => .error (.invalid "CodeChunk" es)
  else splitClass c path l

/-- The chunks of a file, class by class. A file without classes is cut as a text. -/
def ofClasses (size : Datum) (sp : Splitters) (ps : Parsers) (s : Store) (path : Path)
    (l : Language) : List EnhancedChunk :=
  orNothing <|
    match ps.fileStructures s path path.toString l with
    | [] => do
      let text ← s.readUtf8 path
      return (ofContent sp (String.ofList text) path l false).map fun c => ⟨c, [], false, none⟩
    | cs => do return (← cs.mapM (classChunks size path l)).flatten

/-! ## Windows -/

/-- The distance between the starts of two windows, at least one. -/
def stride (size overlap : Int) : Nat := (max 1 (size - overlap)).toNat

/-- The place at which a window ends. A place before the start of the text counts from its end. -/
def windowEnd (length : Nat) (start : Nat) (size : Int) : Nat :=
  let stop := start + size
  if stop < 0 then (stop + length).toNat else stop.toNat

def window (size : Int) (text : List Char) (start : Nat) : List Char :=
  (text.take (windowEnd text.length start size)).drop start

/-- All windows of a text. A text without windows is one piece. -/
def windows (size overlap : Int) (text : List Char) : List (List Char) :=
  let step := stride size overlap
  let count := (text.length + step - 1) / step
  if count == 0 then [text]
  else (List.range count).map fun k => window size text (k * step)

end SpecScribe.Chunk
