import SpecScribe.Bench.Scenario.Basic
import SpecScribe.Modules.Analyzer
import SpecScribe.Processing.Basic

/-!
Scenarios of reading source texts: the elements and classes that are found, the modules made of
them, and the chunks.
-/

namespace SpecScribe.Bench.Scenario

open Workspace Syntax Modules

def elements (l : Language) (text : String) : List Element :=
  Outline.service.elementsOf l text.toUTF8.toList

def structures (l : Language) (text : String) : List ClassStructure :=
  Outline.service.fileStructures (storeOf [("f", text)]) (Path.ofString "f") "f" l

def sortedNames (ls : List Language) : Datum :=
  toDatum ((ls.map Language.name).mergeSort fun a b => decide (a ≤ b))

def readPython : Scenario := fun n =>
  let text := times 3 (sample .python)
  let es := elements .python text
  let cs := structures .python text
  let round : List Datum :=
    [toDatum (names es), toDatum (cs.map (·.name)),
     toDatum (cs.map fun c => Datum.list c.methodNames), toDatum es.length]
  let last : List Datum :=
    [sortedNames Outline.service.languages, .bool (Outline.service.supports .python),
     sortedNames Language.all, toDatum Language.all.length]
  .ok (.list ((List.replicate n round).flatten ++ last))

def readRound (l : Language) : List Datum :=
  let text := times 4 (sample l)
  let es := elements l text
  [.list (es.map fun e => toDatum [e.name, e.kind]),
   .list ((structures l text).map fun c => .list [.text c.name, toDatum c.methods.length]),
   toDatum es.length]

/-- Reads several languages again and again, and at last one without classes. -/
def readLanguages : Scenario := fun n => do
  let round := [Language.javascript, .typescript, .java, .cpp].flatMap readRound
  let find := (Outline.ofBytes .c (sample .cpp).toUTF8.toList).finder
  let functions ← Dialect.c.extractFunctions find
  let records ← Dialect.c.extractClasses find
  let kept ← Dialect.c.extractStructures find "f"
  let methods := kept.flatMap ClassStructure.methodNames
  return .list ((List.replicate n round).flatten ++
    [toDatum (names functions), toDatum (names records), toDatum (kept.map (·.name)),
     .list methods])

def manyImports : Language → String
  | .python => times 4 (file ["import os", "import os.path", "from typing import List"])
  | _ => times 3 (file ["import a from 'a';", "const b = require('b');"])

def longModule : ModuleInfo := ModuleInfo.measured
  { path := Path.ofString "long", language := .python,
    elements :=
      [{ name := "f", kind := "function", startLine := 1, endLine := 30, content := "" },
       { name := "C", kind := "class", startLine := 1, endLine := 60, content := "" }] }

def analyzeModules : Scenario := fun n => do
  let files := (List.range n).flatMap fun i =>
    [("m" ++ toString i ++ ".py", sample .python), ("m" ++ toString i ++ ".js", sample .javascript)]
  let (found, a) := ({} : Analyzer).analyzeDirectory Outline.service (storeOf files)
    (Path.ofString ".") [.python, .javascript] .null
  let keys ← found
  let modules := keys.filterMap fun k => a.modules.lookup k
  let scored : List Datum := modules.flatMap fun m =>
    [toDatum m.complexity, toDatum ((names m.functions).mergeSort fun x y => decide (x ≤ y)),
     toDatum (names m.classes)]
  let report ← match a.report with
    | some r => pure r
    | none => throw (.missingKey "total_modules")
  let excluded ← Analyzer.excludes [.text "*/build/*"] (Path.ofString "x/build/y")
  let count (l : Language) : Datum := toDatum (dependencies l (manyImports l).toList).length
  let round : List Datum :=
    [count .python, count .javascript, .bool excluded, toDatum longModule.complexity,
     toDatum longModule.functions.length, toDatum longModule.classes.length]
  let shown : Dependency := ⟨"x", "module", some "src"⟩
  return .list ([toDatum modules.length] ++ scored
    ++ modules.map (fun m => toDatum m.dependencies.length)
    ++ keys.map (fun k => toDatum (a.dependenciesOf k).length)
    ++ [toDatum report.modules] ++ (List.replicate (15 * n) round).flatten
    ++ [.list (((toDatum shown).toMembers.mergeSort fun x y => decide (x.1 ≤ y.1)).map
          fun (k, v) => .list [.text k, v])])

def cutFiles : Scenario := fun n => do
  let name (i : Nat) : String := "f" ++ toString i ++ ".py"
  let store := storeOf ((List.range n).map fun i => (name i, sample .python))
  let p : Processing.Processor :=
    { scanner := {}, languages := .these Language.all, chunkSize := .int 4000, batchSize := 8,
      splitters := splitters, parsers := Outline.service }
  let counts (i : Nat) : Except Fault (List Datum) := do
    let path := Path.ofString (name i)
    let plain ← (p.processSingle store ⟨false, false⟩ path).1
    let semantic ← (p.processSingle store ⟨true, false⟩ path).1
    let classes ← p.processClasses store path
    return [toDatum plain.length, toDatum semantic.length, toDatum classes.length,
      toDatum (classes.map (·.parent)).length]
  if n == 0 then throw (.outside "IndexError" "list index out of range")
  let first ← (p.processSingle store {} (Path.ofString (name 0))).1
  return .list ([toDatum first.length] ++ (← (List.range n).mapM counts).flatten)

/-- A file for each number: seven kinds take turns, of which one is of no language and one is
left out. -/
def scannedFile (i : Nat) : String × String :=
  let endings := [".py", ".js", ".ts", ".java", ".cpp", ".txt", ".min.js"]
  ("f" ++ toString i ++ endings.getD (i % 7) "", "")

/-- Scans a directory, then judges the files again and again. -/
def scanFiles : Scenario := fun n => do
  let files := (List.range n).map scannedFile
  let store := storeOf (files ++ [("Makefile", ""), ("cli", "#!/usr/bin/env node\n")])
  let special ← match files.find? fun (name, _) => Text.contains ".min".toList name.toList with
    | some (name, _) => pure (Path.ofString name)
    | none => throw (.outside "StopIteration" "")
  let filter : Filter := { exclude := .list [.text "*.min.js"] }
  let (found, sc) := ({ filter := filter } : Scanner).scan store (Path.ofString ".")
    (Scanner.oneOf Language.all)
  let fs ← found
  let judged : List Datum := fs.flatMap fun (f : FoundFile) =>
    [toDatum f.language, .bool ((store.language? f.path).map Language.all.contains |>.getD false)]
  let round := judged ++
    [.bool (← filter.excludesFile store special),
     .bool (← filter.excludesFile store (Path.ofString "cli")),
     .bool (← filter.excludesDir (Path.ofString "src"))]
  return .list ([toDatum sc.counts.errors, sortedNames (fs.map (·.language))]
    ++ (List.replicate 60 round).flatten)

end SpecScribe.Bench.Scenario
