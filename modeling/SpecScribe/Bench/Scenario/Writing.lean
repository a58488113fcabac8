import SpecScribe.Bench.Scenario.Basic
import SpecScribe.Chunk.Enhanced
import SpecScribe.Document.Change
import SpecScribe.Document.Output
import SpecScribe.Document.Specification
import SpecScribe.Document.Truncate
import SpecScribe.Prompt.Library
import SpecScribe.Prompt.Listing

/-!
Scenarios of writing: documents of many modules, prompts, and classes written out.
-/

namespace SpecScribe.Bench.Scenario

open Document Prompt

def texts (ms : List (String × String)) : Datum := Datum.ofPairs ms

def length (r : Except Fault String) : Except Fault Datum := do return toDatum (← r).length

/-! ## Documents -/

def documentModule (i : Nat) : String × Datum :=
  let k := toString i
  let function (j : Nat) : Datum := .record
    [("name", .text ("handle" ++ k ++ "_" ++ toString j)), ("purpose", .text "interface handler"),
     ("inputs", toDatum ["input"]), ("outputs", .text "reply"),
     ("complexity", .text (["medium", "low", "high"].getD (j % 3) ""))]
  let cls : Datum := .record
    [("name", .text ("Cls" ++ k)), ("purpose", .text (times 10 "責務を説明する長い文です。")),
     ("methods", toDatum (numberedTexts "m" 8)), ("attributes", toDatum (numberedTexts "a" 18))]
  ("mod" ++ k, .record
    [("functions", .list ((List.range 4).map function)), ("classes", .list [cls]),
     ("dependencies", .list [texts [("name", "lib" ++ k), ("type", "internal")]])])

def documentData (n : Nat) : Datum := .record
  [("overview", texts [("system_overview", "概要"), ("constraints", "なし")]),
   ("architecture", texts [("overview", "処理概要")]),
   ("modules", .record ((List.range n).map documentModule)),
   ("change_history", .list
      [texts [("date", "本日"), ("version", "1"), ("description", "初版"), ("author", "S")]])]

def heading : Heading := { project := "Bench", date := "2024年01月01日" }

/-- Texts cut in several ways; the limit of a sentence moves. -/
def truncations (j : Nat) : Except Fault (List Datum) := do
  let t : Settings.TableSettings := {}
  let cut (limit : Int) (s : String) : Datum :=
    .text (String.ofList (truncateSentence t limit s.toList))
  let joined (s : String) : Datum := .text (String.ofList (truncateAtSeparator t s.toList))
  let sentences := times 20 "あいう。えお、"
  return [joined (", ".intercalate (numberedTexts "m" 30)), joined "short",
    cut (30 + (j % 20 : Nat)) sentences, cut 10 "s", cut 3 sentences,
    toDatum (← methodLines (toDatum ["a", "b", "c"])), toDatum (← methodLines (.list [])),
    toDatum (clip 80 (times 100 "x")).length]

/-- Writes documents and their sections. Only three modules go into the whole document. -/
def writeDocuments : Scenario := fun n => do
  let data := documentData n
  let sizes ← [specification heading (documentData (min n 3)), specification heading (.record []),
    changeHistory heading (.list []), overviewSection data, architectureSection data,
    interfaceSection data, dataDesignSection data, processingSection data,
    methodRelationships (data.get "modules").toMembers].mapM length
  return .list (sizes ++ (← (List.range (6 * n)).mapM truncations).flatten)

/-! ## Prompts -/

def promptFunction (i : Nat) : Datum := .record
  [("name", .text ("f" ++ toString i)), ("parameters", toDatum ["a", "b"]),
   ("purpose", .text ("目的 " ++ toString i))]

def promptClass (i : Nat) : Datum := .record
  ([("name", .text ("C" ++ toString i)), ("purpose", .text "保持"),
    ("methods", toDatum ["get", "set"])]
   ++ if i % 2 == 1 then
        [("method_details", .list [texts [("name", "m"), ("purpose", "取得")]])]
      else [])

def promptDependency (i : Nat) : Datum :=
  texts [("name", "d" ++ toString i), ("type", "library"), ("usage", "参照")]

/-- Writes the lists of prompts, a summary of their first items, and whole prompts. -/
def writePrompts : Scenario := fun n => do
  let functions := (List.range n).map promptFunction
  let classes := (List.range n).map promptClass
  let dependencies := (List.range n).map promptDependency
  let analysis : Datum := .record
    [("overview", .text "概要"), ("functions", .list (functions.take 5)),
     ("classes", .list (classes.take 5)), ("dependencies", .list (dependencies.take 5)),
     ("data_flow", .text "入出"), ("error_handling", .text "例外")]
  let empty : Datum := .list []
  return .list (← [functionList (.list functions), functionList empty, classList (.list classes),
    classList empty, dependencyList (.list dependencies), dependencyList empty,
    analysisSummary analysis,
    analysisTemplate.fill [("file_path", .text "a.py"), ("language", .text "py"),
      ("ast_info", .text "ast"), ("code_content", .text "code")],
    systemOverviewTemplate.fill [("module_count", .int 1), ("function_count", .int 2),
      ("class_count", .int 3)],
    classStructureTemplate.fill [("class_name", .text "C"), ("class_methods", .text "m"),
      ("class_content", .text "c")]].mapM length)

/-! ## Classes -/

def writtenClass (n i : Nat) : ClassStructure where
  name := "C" ++ toString i
  methods := (List.range n).map fun j =>
    .object [("name", .text ("m" ++ toString j)),
      ("content", .text ("def m" ++ toString j ++ "(self):\n    return " ++ toString j))]
  attributes := (numberedTexts "attr_" (n / 2)).map fun a => .plain (.text a)
  doc := some "doc"
  startLine := 1
  endLine := 5
  path := "f.py"

def writeClasses : Scenario := fun n =>
  let cs := (List.range 4).map (writtenClass n)
  let one (c : ClassStructure) : List Datum :=
    [toDatum c.unified.length, .list (c.methodNames.take 3)]
  let path := Workspace.Path.ofString "f.py"
  let chunk : Chunk.CodeChunk :=
    { content := "x", path := path, language := .python, startLine := 1, endLine := 5,
      kind := "class" }
  let whole : Chunk.EnhancedChunk := { chunk := chunk, structures := cs, complete := true }
  let change : Change :=
    { path := path, changeType := "added", elementName := "m", elementType := "function",
      impact := 1.0, dependencies := [] }
  .ok <| .list (cs.flatMap one
    ++ [toDatum whole.unified.length, toDatum (chunk.endLine - chunk.startLine + 1),
        .text change.changeType, .text "T"]
    ++ (writtenClass n 0).methodNames)

end SpecScribe.Bench.Scenario
