import SpecScribe.Datum.Access
import SpecScribe.Datum.Describe
import SpecScribe.Number.Fixed
import SpecScribe.Shell.Basic

/-!
Running tests and linters. Each run is noted under its name with its success and its time; a
command that cannot be run at all is not noted.
-/

namespace SpecScribe.Checks

open Shell

structure Category where
  name : String
  description : String
  paths : List String
  markers : List String := []

def categories : List Category :=
  [{ name := "unit", description := "Run unit tests",
     paths := ["tests/test_models.py", "tests/test_config.py", "tests/test_tree_sitter_parser.py",
       "tests/test_processor.py", "tests/test_generator.py"],
     markers := ["not integration"] },
   { name := "integration", description := "Run integration tests",
     paths := ["tests/test_integration.py"], markers := ["integration"] },
   { name := "cli", description := "Run CLI tests", paths := ["tests/test_cli.py"] },
   { name := "all", description := "Run all tests", paths := ["tests/"] }]

/-- A linter, and how it repairs what it finds if it can. -/
structure Tool where
  name : String
  description : String
  check : List String
  repair : Option (List String) := none

def tools : List Tool :=
  [{ name := "ruff", description := "Run Ruff linter",
     check := ["ruff", "check", "src/", "tests/", "scripts/"],
     repair := some ["ruff", "check", "--fix", "src/", "tests/", "scripts/"] },
   { name := "black", description := "Run Black formatter",
     check := ["black", "--check", "--diff", "src/", "tests/", "scripts/"],
     repair := some ["black", "src/", "tests/", "scripts/"] },
   { name := "mypy", description := "Run MyPy type checker",
     check := ["mypy", "src/spec_generator/"] }]

structure CheckResult where
  success : Bool
  duration : Number
  command : String

instance : ToDatum CheckResult where
  toDatum r := .record
    [("success", toDatum r.success), ("duration", .float r.duration.toFloat),
     ("command", toDatum r.command)]

/-- The results so far, in the order in which the names came up first. -/
structure Runner where
  results : List (String × CheckResult) := []

structure TestOptions where
  verbose : Bool := false
  coverage : Bool := false
  failFast : Bool := false
  parallel : Bool := false

def Category.command (c : Category) (o : TestOptions) : List String :=
  ["python", "-m", "pytest"] ++ c.paths ++ c.markers.flatMap (fun m => ["-m", m])
    ++ (if o.verbose then ["-v"] else [])
    ++ (if o.coverage then
        ["--cov=src/spec_generator", "--cov-report=html:htmlcov", "--cov-report=term-missing"]
      else [])
    ++ (if o.failFast then ["-x"] else [])
    ++ (if o.parallel then ["-n", "auto"] else [])
    ++ ["--tb=short", "--disable-warnings"]

def seconds (n : Number) : String := Number.fixed 2 n.toFloat ++ "s"

def sayVerdict (description : String) (success : Bool) (duration : Number) : Run Unit :=
  if success then say ("✓ " ++ description ++ " passed in " ++ seconds duration)
  else say ("✗ " ++ description ++ " failed in " ++ seconds duration)

def keyOf : Datum → Except Fault (Option String)
  | .text s => .ok (some s)
  | .list _ => .error (.notAKey "list")
  | .record _ => .error (.notAKey "dict")
  | _ => .ok none

def timed (words : List String) : Run (Finished × Number) := do
  let start ← clock
  let r ← command words
  return (r, (← clock).sub start)

namespace Runner

/-- Notes a result. A known name keeps its place. -/
def note (r : Runner) (name : String) (c : CheckResult) : Runner := ⟨setKey name c r.results⟩

def runCategory (r : Runner) (c : Category) (o : TestOptions) : Run (Bool × Runner) := do
  let words := c.command o
  say ("Running " ++ c.description ++ "...")
  say ("Command: " ++ " ".intercalate words)
  match ← attempt (timed words) with
  | .ok (f, duration) =>
    let success := f.code == 0
    sayVerdict c.description success duration
    return (success, r.note c.name ⟨success, duration, " ".intercalate words⟩)
  | .error f =>
    if f.family == "FileNotFoundError" then
      say "Error: pytest not found. Please install it with: pip install pytest"
    else say ("Error running tests: " ++ f.message)
    return (false, r)

def runTests (r : Runner) (name : Datum) (o : TestOptions) : Run (Bool × Runner) := do
  let key ← keyOf name
  match key.bind fun k => categories.find? (·.name == k) with
  | some c => r.runCategory c o
  | none =>
    say ("Error: Unknown test category '" ++ name.plain ++ "'")
    say ("Available categories: " ++ ", ".intercalate (categories.map (·.name)))
    return (false, r)

def runTool (r : Runner) (t : Tool) (fix verbose : Bool) : Run (Bool × Runner) := do
  let (words, action) := match fix, t.repair with
    | true, some words => (words, "Fixing with")
    | _, _ => (t.check, "Running")
  say (action ++ " " ++ t.description ++ "...")
  if verbose then say ("Command: " ++ " ".intercalate words)
  match ← attempt (timed words) with
  | .ok (f, duration) =>
    let success := f.code == 0
    sayVerdict t.description success duration
    if !success && !verbose then
      if f.out != "" then say ("Output: " ++ f.out)
      if f.err != "" then say ("Errors: " ++ f.err)
    return (success, r.note ("lint_" ++ t.name) ⟨success, duration, " ".intercalate words⟩)
  | .error f =>
    if f.family == "FileNotFoundError" then
      say ("Warning: " ++ t.name ++ " not found. Please install it.")
    else say ("Error running " ++ t.name ++ ": " ++ f.message)
    return (false, r)

def runTools (fix verbose : Bool) : List Tool → (passed : Bool) → Runner → Run (Bool × Runner)
  | [], passed, r => return (passed, r)
  | t :: rest, passed, r => do
    let (success, r') ← r.runTool t fix verbose
    runTools fix verbose rest (passed && success) r'

def runLinting (r : Runner) (name : Datum) (fix verbose : Bool) : Run (Bool × Runner) := do
  let key ← keyOf name
  if key == some "all" then runTools fix verbose tools true r
  else
    match key.bind fun k => tools.find? (·.name == k) with
    | some t => runTools fix verbose [t] true r
    | none =>
      say ("Error: Unknown linting tool '" ++ name.plain ++ "'")
      say ("Available tools: " ++ ", ".intercalate (tools.map (·.name)) ++ ", all")
      return (false, r)

end Runner

def dependencies : List String :=
  ["pytest>=7.0.0", "pytest-asyncio>=0.21.0", "pytest-cov>=4.0.0", "pytest-xdist>=3.0.0",
   "ruff>=0.0.261", "black>=23.0.0", "mypy>=1.0.0"]

def installDependencies : Run Bool := do
  say "Installing test dependencies..."
  match ← attempt (command ([(← get).interpreter, "-m", "pip", "install"] ++ dependencies)) with
  | .ok f =>
    if f.code == 0 then
      say "✓ Test dependencies installed successfully"
      return true
    else
      say "✗ Failed to install test dependencies"
      say ("Error: " ++ f.err)
      return false
  | .error f =>
    say ("Error installing dependencies: " ++ f.message)
    return false

namespace Runner

def passed (r : Runner) : Nat := (r.results.filter (·.2.success)).length

def failed (r : Runner) : Nat := (r.results.filter (!·.2.success)).length

def totalTime (r : Runner) : Number := r.results.foldl (fun t x => t.add x.2.duration) (.int 0)

def resultLine (name : String) (c : CheckResult) : String :=
  (if c.success then "✓ " else "✗ ") ++ Text.padEnd 20 name ++
    (if c.success then " PASS (" else " FAIL (") ++ seconds c.duration ++ ")"

def report (r : Runner) : Run Unit := do
  if r.results.isEmpty then say "No test results to report."
  else
    let rule (c : Char) : String := String.ofList (List.replicate 60 c)
    say ("\n" ++ rule '=')
    say "TEST RESULTS SUMMARY"
    say (rule '=')
    for (name, c) in r.results do
      say (resultLine name c)
    say (rule '-')
    say ("Total: " ++ toString (r.passed + r.failed) ++ " tests")
    say ("Passed: " ++ toString r.passed)
    say ("Failed: " ++ toString r.failed)
    say ("Total time: " ++ seconds r.totalTime)
    if r.failed == 0 then say "\n🎉 All tests and checks passed!"
    else say ("\n❌ " ++ toString r.failed ++ " test(s) or check(s) failed.")

structure Step where
  name : String
  title : String
  run : Runner → Run (Bool × Runner)

def lintStep (name title tool : String) : Step :=
  ⟨name, title, fun r => r.runLinting (.text tool) false false⟩

def testStep (name title category : String) (o : TestOptions := {}) : Step :=
  ⟨name, title, fun r => r.runTests (.text category) o⟩

def quickSteps : List Step :=
  [lintStep "syntax" "Syntax" "ruff", lintStep "formatting" "Formatting" "black",
   testStep "unit_tests" "Unit Tests" "unit" { failFast := true }]

def fullSteps : List Step :=
  [⟨"install", "Install", fun r => return (← installDependencies, r)⟩,
   lintStep "syntax" "Syntax" "ruff", lintStep "formatting" "Formatting" "black",
   lintStep "typing" "Typing" "mypy",
   testStep "unit_tests" "Unit Tests" "unit" { coverage := true },
   testStep "cli_tests" "Cli Tests" "cli",
   testStep "integration_tests" "Integration Tests" "integration"]

/-- Runs steps up to the first that fails. -/
def runUntilFailure : List Step → Runner → Run (Bool × Runner)
  | [], r => return (true, r)
  | s :: rest, r => do
    say ("\n--- " ++ s.title ++ " ---")
    let (success, r') ← s.run r
    if success then
      say ("✓ " ++ s.name ++ " validation passed")
      runUntilFailure rest r'
    else
      say ("❌ " ++ s.name ++ " validation failed")
      return (false, r')

def runAllSteps : List Step → (passed : Bool) → Runner → Run (Bool × Runner)
  | [], passed, r => return (passed, r)
  | s :: rest, passed, r => do
    let bar := String.ofList (List.replicate 20 '=')
    say ("\n" ++ bar ++ " " ++ s.title ++ " " ++ bar)
    let (success, r') ← s.run r
    say (if success then "✓ " ++ s.name ++ " passed" else "❌ " ++ s.name ++ " failed")
    runAllSteps rest (passed && success) r'

def quick (r : Runner) : Run (Bool × Runner) := do
  say "Running quick validation suite..."
  runUntilFailure quickSteps r

def full (r : Runner) : Run (Bool × Runner) := do
  say "Running full validation suite..."
  runAllSteps fullSteps true r

end Runner

end SpecScribe.Checks
