import SpecScribe.Bench.Scenario.Asking
import SpecScribe.Bench.Scenario.Parsing
import SpecScribe.Bench.Scenario.Writing
import SpecScribe.Checks.Runner
import SpecScribe.Program.Basic

/-!
Scenarios of whole commands: the program, the installer of parsers and the checks. Then all
scenarios by name.
-/

namespace SpecScribe.Bench

open Workspace

namespace Scenario

/-! ## The program -/

def standingAnswer : Datum :=
  .text "\x7b\"overview\":\"モジュール overview\",\"functions\":[],\"classes\":[],\"dependencies\":[]\x7d"

/-- A world with one source file and a model that always answers. -/
def world : Program.World where
  environment := [("OPENAI_API_KEY", "k")]
  store := storeOf [("m.py", sample .python)]
  parsers := Outline.service
  splitters := { plain := splitters.plain, semantic := fun s => .ok [.text s] }
  session := { script :=
    [{ outcome := .several (List.replicate 6 (.ok (.message standingAnswer))) },
     answering standingAnswer, answering standingAnswer] }

/-- Asks for the version and writes a specification, again and again. -/
def runProgram : Scenario := fun n =>
  let (code, _) := Program.runToEnd ["--version"] world
  let (_, w) := Program.runToEnd ["generate", "m.py", "--output", "out.md"] world
  let written := match w.store.readText (Path.ofString "out.md") with
    | .ok text => String.ofList text
    | .error f => f.message
  let round := [if code == 0 then "ver" else "", start 20 written]
  .ok (toDatum (List.replicate n round).flatten)

/-! ## Installing -/

def languageNames : List String := ["py", "js", "ts", "java", "c++", "cobol"]

def site : Install.Site where
  hasParser := fun _ _ => .ok true
  version := .ok ()

def installParsers : Scenario := fun n => do
  let asked := (List.range n).map fun i => languageNames.getD (i % 6) ""
  let (r, shell) := (Install.installFor site Install.allNames true).run {}
  let installed ← r
  let found ← Install.Installer.verify site shell.commands [] (asked.map .text)
  let outcomes := (installed :: found.map (·.2)).eraseDups
  return .list [toDatum outcomes.length, toDatum (asked.map Install.normalize)]

/-! ## Checks -/

open Checks in
def checkRound : Shell.Run (List Bool) := do
  let r : Runner := {}
  r.report
  let (a, r) ← r.runTests (.text "unit") ⟨true, true, true, true⟩
  let (b, r) ← r.runTests (.text "nosuch") {}
  let (c, r) ← r.runLinting (.text "all") false false
  let (d, r) ← r.runLinting (.text "ruff") true true
  let (e, r) ← r.runLinting (.text "nosuch") false false
  let f ← installDependencies
  let (g, r) ← r.quick
  let (h, r) ← r.full
  (r.note "fail" ⟨false, .int 0, ""⟩).report
  return [a, b, c, d, e, f, g, h]

/-- Runs the checks again and again and counts what they print. -/
def runChecks : Scenario := fun n => do
  let (r, shell) := checkRound.run {}
  let outcomes ← r
  return .list
    ((List.replicate n outcomes).flatten.map toDatum ++ [toDatum (n * shell.text.length)])

end Scenario

def scenarios : List (String × Scenario) :=
  [("models_roundtrip", Scenario.writeClasses), ("config_loading", Scenario.loadSettings),
   ("file_scanning", Scenario.scanFiles), ("parse_python", Scenario.readPython),
   ("parse_multilang", Scenario.readLanguages), ("ast_analyzer", Scenario.analyzeModules),
   ("templates_document", Scenario.writeDocuments), ("prompt_helpers", Scenario.writePrompts),
   ("analysis_processor", Scenario.combineAnalyses), ("llm_provider", Scenario.askModel),
   ("codebase_processor", Scenario.cutFiles), ("spec_generator", Scenario.countChunks),
   ("cli_commands", Scenario.runProgram), ("install_script", Scenario.installParsers),
   ("run_tests_script", Scenario.runChecks)]

/-- The scenario of a name; an unknown one gives nothing. -/
def scenario (name : String) : Scenario :=
  (scenarios.lookup name).getD fun _ => .ok .null

end SpecScribe.Bench
