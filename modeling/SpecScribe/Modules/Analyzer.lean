import SpecScribe.Chunk.Basic
import SpecScribe.Datum.Access
import SpecScribe.Datum.Describe
import SpecScribe.Modules.Basic
import SpecScribe.Syntax.Parsers
import SpecScribe.Workspace.Reading
import SpecScribe.Workspace.Walk

/-!
The analyzer keeps the modules it has seen, in the order in which they came, and a graph of which
module depends on which.
-/

namespace SpecScribe.Modules

open Workspace Syntax

structure Analyzer where
  modules : List (String × ModuleInfo) := []
  /-- For each module with a known dependency, the modules it depends on. -/
  graph : List (String × List String) := []

/-- The module of a file. A file that cannot be read as text imports and exports nothing and has
no lines. -/
def readModule (ps : Parsers) (s : Store) (p : Path) (l : Language) : Except Fault ModuleInfo := do
  let elements ← ps.fileElements s p l
  let m : ModuleInfo := { path := p, language := l, elements := elements }
  match s.readUtf8 p with
  | .ok text =>
    return { m with
      dependencies := dependencies l text, exports := exports l text,
      lineCount := countLines text }.measured
  | .error _ => return m.measured

namespace Analyzer

/-- Analyses one file and keeps the module, if there is one. -/
def analyzeFile (a : Analyzer) (ps : Parsers) (s : Store) (p : Path) (l : Language) :
    Option ModuleInfo × Analyzer :=
  match readModule ps s p l with
  | .ok m => (some m, { a with modules := setKey p.toString m a.modules })
  | .error _ => (none, a)

/-- The ends of file names that are looked for, language by language. -/
def fileEndings : Language → List String
  | .python => [".py"]
  | .javascript => [".js", ".jsx"]
  | .typescript => [".ts", ".tsx"]
  | .java => [".java"]
  | .cpp => [".cpp", ".cxx", ".cc", ".hpp", ".h"]

/-- The first module whose file is called like a dependency or its source. -/
def target? (a : Analyzer) (d : Dependency) : Option String :=
  (a.modules.find? fun (key, _) =>
    let stem := (Path.ofString key).stem
    d.name == stem || d.source == some stem).map (·.1)

def addEdge (source target : String) (g : List (String × List String)) :
    List (String × List String) :=
  let old := (g.lookup source).getD []
  setKey source (if old.contains target then old else old ++ [target]) g

def buildGraph (a : Analyzer) : Analyzer :=
  { a with graph := a.modules.foldl (fun g (key, m) =>
      m.dependencies.foldl (fun g d =>
        match a.target? d with
        | some t => addEdge key t g
        | none => g) g) [] }

/-- Whether a path holds one of the patterns, read without their stars. -/
def excludes (patterns : List Datum) (p : Path) : Except Fault Bool :=
  match patterns with
  | [] => .ok false
  | .text pattern :: r =>
    if Text.contains (pattern.toList.filter (· != '*')) p.toString.toList then .ok true
    else excludes r p
  | d :: _ => .error (.noMember d.kind "replace")

/-- Analyses files one after another; `found` are the modules of this run. A fault in a pattern
ends the run. -/
def analyzeAll (ps : Parsers) (s : Store) (patterns : List Datum) :
    List (Path × Language) → (found : List String) → Analyzer →
      Except Fault (List String) × Analyzer
  | [], found, a => (.ok found, a)
  | (p, l) :: r, found, a =>
    match excludes patterns p with
    | .error f => (.error f, a)
    | .ok true => analyzeAll ps s patterns r found a
    | .ok false =>
      match a.analyzeFile ps s p l with
      | (some _, a') =>
        let key := p.toString
        analyzeAll ps s patterns r (if found.contains key then found else found ++ [key]) a'
      | (none, a') => analyzeAll ps s patterns r found a'

/-- The files below a directory that are looked at, language by language. -/
def candidates (s : Store) (directory : Path) (languages : List Language) :
    List (Path × Language) :=
  languages.flatMap fun l =>
    (fileEndings l).flatMap fun e => (s.find e directory).map fun p => (p, l)

def analyzeDirectory (a : Analyzer) (ps : Parsers) (s : Store) (directory : Path)
    (languages : List Language) (exclude : Datum) : Except Fault (List String) × Analyzer :=
  match (if exclude.isTruthy then exclude.items else .ok []) with
  | .error f =>
    if (candidates s directory languages).isEmpty then (.ok [], a.buildGraph) else (.error f, a)
  | .ok patterns =>
    match analyzeAll ps s patterns (candidates s directory languages) [] a with
    | (.ok found, a') => (.ok found, a'.buildGraph)
    | (.error f, a') => (.error f, a')

def dependenciesOf (a : Analyzer) (key : String) : List String := (a.graph.lookup key).getD []

def dependentsOf (a : Analyzer) (key : String) : List String :=
  (a.graph.filter fun (_, targets) => targets.contains key).map (·.1)

def setDependencies (a : Analyzer) (key : String) (ds : List Dependency) : Except Fault Analyzer :=
  match a.modules.lookup key with
  | some m => .ok { a with modules := setKey key { m with dependencies := ds } a.modules }
  | none => .error (.missingKey key)

/-- The complexity of all modules taken together. -/
structure Report where
  modules : Nat
  total : Float
  average : Float
  max : Float
  mostComplex : List (String × Float)

/-- The modules by falling complexity; equals keep their order. -/
def byComplexity (a : Analyzer) : List (String × Float) :=
  (a.modules.map fun (k, m) => (k, m.complexity)).mergeSort fun x y => decide (y.2 ≤ x.2)

def report (a : Analyzer) : Option Report :=
  if a.modules.isEmpty then none
  else
    let scores := a.modules.map fun (_, m) => m.complexity
    let total := scores.foldl (· + ·) 0.0
    let sorted := a.byComplexity
    some
      { modules := scores.length, total := total, average := total / scores.length.toFloat,
        max := (sorted.head?.map (·.2)).getD 0.0, mostComplex := sorted.take 10 }

def chunks (a : Analyzer) : Except Fault (List Chunk.CodeChunk) :=
  match a.modules.flatMap (fun (_, m) => m.elements.map fun e => (m, e)) |>.mapM fun (m, e) =>
      Chunk.CodeChunk.make e.content m.path m.language e.startLine e.endLine e.kind with
  | .ok cs => .ok cs
  | .error es => .error (.invalid "CodeChunk" es)

end Analyzer

instance : ToDatum Analyzer.Report where
  toDatum r := .record
    [("total_modules", toDatum r.modules), ("total_complexity", toDatum r.total),
     ("average_complexity", toDatum r.average), ("max_complexity", toDatum r.max),
     ("most_complex_modules", .list (r.mostComplex.map fun (k, x) =>
       .record [("path", .text k), ("complexity", .float x)]))]

end SpecScribe.Modules
